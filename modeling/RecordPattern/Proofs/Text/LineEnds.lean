import RecordPattern.Text.Utf8

namespace RecordPattern.Text

-- A text with a line feed in the place of each carriage return that has one after it.
def joinPairs : List Char → List Char
  | '\r' :: '\n' :: rest => '\n' :: joinPairs rest
  | c :: rest => c :: joinPairs rest
  | [] => []

-- Of the line ends, pairs become line feeds first, and then the carriage returns that are left.
theorem lineFeeds_eq (text : List Char) :
    lineFeeds text = (joinPairs text).map fun c => if c = '\r' then '\n' else c := by
  fun_induction lineFeeds text with
  | case1 rest ih => simp [joinPairs, ih]
  | case2 rest hpair ih =>
      rw [joinPairs, List.map_cons, if_pos rfl, ih]
      exact fun more _ => hpair more
  | case3 c rest hpair halone ih =>
      rw [joinPairs, List.map_cons, if_neg halone, ih]
      exact hpair
  | case4 => rfl

-- A text with line feeds for all line ends: for pairs, and then for carriage returns.
def withLineFeeds (text : String) : String :=
  String.ofList ((joinPairs text.toList).map fun c => if c = '\r' then '\n' else c)

theorem withLineFeeds_eq (text : String) :
    withLineFeeds text = String.ofList (lineFeeds text.toList) := by
  rw [withLineFeeds, lineFeeds_eq]

end RecordPattern.Text
