import RecordPattern.Proofs.Command.Run
import RecordPattern.Proofs.Text.LineEnds
import RecordPattern.Proofs.Text.Utf8

namespace RecordPattern

open Outcome Text

namespace Command

-- The options that say where the text to search comes from.
def isSource (option : OptionName) : Bool :=
  option = .input || option = .text

def Given.others (given : Given) : Given :=
  given.filter fun entry => !isSource entry.1

-- Arguments that ask for a search. The options that do not say what to search come in this order;
-- those that do stand anywhere between them, and their last values count.
def Asks (arguments : List String) (others : Given) (input text : Option String) : Prop :=
  ∃ rest given, (arguments = "find" :: rest ∨ arguments = "--" :: "find" :: rest) ∧
    readOptions allOptions rest = .ok given ∧ given.others = others ∧
    given.value? .input = input ∧ given.value? .text = text

-- What the other options say, where nothing is said about the text to search.
def readOthers (tree : Files.Tree) (others : Given) : Except ArgumentError FindOptions := do
  others.forM fun entry => checkOption tree others entry.1
  let limit ← ((others.value? .limit).map readLimit).getD (.ok defaultLimit)
  let spec ← readSpec tree others
  let out ← (others.value? .out).mapM outPath
  return ⟨spec, none, none, (others.value? .all).isSome, limit, out⟩

def FindOptions.from (options : FindOptions) (input : Option Files.Path) (text : Option String) :
    FindOptions :=
  { options with input, text }

variable {tools : Toolkit} {tree : Files.Tree} {arguments rest tags : List String} {given others : Given}
  {options : FindOptions} {stdin : List UInt8} {path : Files.Path}

theorem value?_others {option : OptionName} (h : isSource option = false) :
    given.others.value? option = given.value? option := by
  unfold Given.value? Given.others
  rw [← List.filter_reverse, List.find?_filter]
  congr 2
  funext entry
  by_cases hentry : entry.1 = option
  · simp [hentry, h]
  · simp [hentry]

theorem checkOption_others {option : OptionName} (h : isSource option = false) :
    checkOption tree given.others option = checkOption tree given option := by
  unfold checkOption
  rw [value?_others h]

theorem checkOption_source {input : Option Files.Path}
    (hinput : (given.value? .input).mapM (filePath tree) = .ok input) {option : OptionName}
    (h : isSource option = true) : checkOption tree given option = .ok () := by
  cases option with
  | input =>
      unfold checkOption
      cases hvalue : given.value? .input with
      | none => rfl
      | some text =>
          rw [hvalue] at hinput
          cases hpath : filePath tree text with
          | ok path => simp [hpath, discard, Functor.discard, Functor.mapConst, Except.map]
          | error error => simp [hpath, Functor.map, Except.map] at hinput
  | text => unfold checkOption; cases given.value? .text <;> rfl
  | _ => cases h

-- A source that can be looked up does not keep the other options from being checked.
theorem forM_checkOption {input : Option Files.Path}
    (hinput : (given.value? .input).mapM (filePath tree) = .ok input) :
    given.forM (fun entry => checkOption tree given entry.1) =
      given.others.forM fun entry => checkOption tree given.others entry.1 := by
  suffices h : ∀ items : Given, items.forM (fun entry => checkOption tree given entry.1) =
      items.others.forM fun entry => checkOption tree given.others entry.1 from h given
  intro items
  induction items with
  | nil => rfl
  | cons entry rest ih =>
      change (checkOption tree given entry.1 >>= fun _ => rest.forM _) = _
      unfold Given.others at ih ⊢
      cases hentry : isSource entry.1 with
      | true =>
          rw [List.filter_cons_of_neg (by simp [hentry]), checkOption_source hinput hentry]
          exact ih
      | false =>
          rw [List.filter_cons_of_pos (by simp [hentry]), ih, ← checkOption_others hentry]
          rfl

theorem readFind_eq (hread : readOptions allOptions rest = .ok given) {input : Option Files.Path}
    (hinput : (given.value? .input).mapM (filePath tree) = .ok input) :
    readFind tree rest = (readOthers tree given.others).map fun options =>
      .find (options.from input (given.value? .text)) := by
  have hspec : readSpec tree given.others = readSpec tree given := by
    rw [readSpec, readSpec, value?_others (rfl : isSource .spec = false)]
  unfold readFind readOthers
  rw [hread, hspec, value?_others (rfl : isSource .limit = false),
    value?_others (rfl : isSource .out = false), value?_others (rfl : isSource .all = false)]
  change (given.forM (fun entry => checkOption tree given entry.1) >>= _) = _
  rw [forM_checkOption hinput, hinput]
  generalize given.others.forM (fun entry => checkOption tree given.others entry.1) = checked
  generalize ((given.value? .limit).map readLimit).getD (.ok defaultLimit) = limit
  generalize readSpec tree given = spec
  generalize (given.value? .out).mapM outPath = out
  cases checked with
  | error error => rfl
  | ok _ => cases limit <;> cases spec <;> cases out <;> rfl

variable {name text : Option String} {input : Option Files.Path}

theorem readArguments_eq (h : Asks arguments others name text)
    (hinput : name.mapM (filePath tree) = .ok input) :
    readArguments tree arguments =
      (readOthers tree others).map fun options => .find (options.from input text) := by
  obtain ⟨rest, given, harguments, hread, rfl, rfl, rfl⟩ := h
  rw [← readFind_eq hread hinput]
  rcases harguments with rfl | rfl <;> rfl

theorem exists_input (h : Asks arguments others name text) {request : Request}
    (hok : readArguments tree arguments = .ok request) :
    ∃ input, name.mapM (filePath tree) = .ok input := by
  obtain ⟨rest, given, harguments, hread, rfl, rfl, rfl⟩ := h
  have hfind : readFind tree rest = .ok request := by
    rcases harguments with rfl | rfl <;> exact hok
  obtain ⟨_, options, hsame, _, _, hinput, _⟩ := readFind_eq_ok hfind
  cases hread.symm.trans hsame
  exact ⟨options.input, hinput⟩

-- What a run comes to once it is known what to search.
theorem run_eq (h : Asks arguments others name text) (hinput : name.mapM (filePath tree) = .ok input)
    (stdin : List UInt8) (tags : List String) :
    run tools readArguments tree stdin arguments tags = match readOthers tree others with
      | .ok options => find tools tree stdin (options.from input text) tags
      | .error error => error.outcome tree := by
  rw [run, readArguments_eq h hinput]
  cases readOthers tree others <;> rfl

-- A run that is given bytes to search, in a file or on the standard input.
inductive Supplies (tree : Files.Tree) (others : Given) (bytes : List UInt8) :
    List UInt8 → List String → Prop
  | file {name : String} {path : Files.Path} {stdin : List UInt8} {arguments : List String}
      (hasks : Asks arguments others (some name) none) (hpath : filePath tree name = .ok path)
      (hread : tree.read path = .ok bytes) : Supplies tree others bytes stdin arguments
  | standardInput {arguments : List String} (hasks : Asks arguments others none none) :
      Supplies tree others bytes bytes arguments

theorem hasNull_filePath {name : String} (h : filePath tree name = .ok path) : path.hasNull = false := by
  unfold filePath at h
  dsimp only at h
  split at h
  · cases h
  next hnull =>
    split at h
    · cases h
    · split at h
      · cases h
        exact eq_false_of_ne_true hnull
      · cases h

theorem Supplies.exists_source {bytes : List UInt8} (h : Supplies tree others bytes stdin arguments) :
    ∃ name input, Asks arguments others name none ∧ name.mapM (filePath tree) = .ok input ∧
      readInput tree stdin input none = (Files.textOf bytes).mapError .unreadable := by
  cases h with
  | @file name path _ _ hasks hpath hread =>
      refine ⟨some name, some path, hasks, ?_, ?_⟩
      · exact optionMapM_eq_some.mpr ⟨name, rfl, hpath⟩
      · have htext : tree.readText path = Files.textOf bytes := by
          unfold Files.Tree.readText
          rw [hasNull_filePath hpath, hread]
          rfl
        exact congrArg (Except.mapError InputError.unreadable) htext
  | standardInput hasks => exact ⟨none, none, hasks, rfl, rfl⟩

-- A run that ends because there is no text to search. It writes nothing; and unless there is nothing
-- to search with either, which is noticed first, it prints the error on a line. What the engine has to
-- say about a spec that asks for it comes before that.
structure Stops (tools : Toolkit) (tree : Files.Tree) (spec : Files.Path) (error : InputError)
    (outcome : Outcome) : Prop where
  exit : outcome.exit = 1
  unchanged : outcome.tree = tree
  compiled : ∀ pattern, compileSpec tools tree spec = .ok pattern → outcome =
    Outcome.after (noise tools tree spec)
      ⟨1, "ERROR: " ++ error.kind ++ ": " ++ error.message ++ "\n", tree, none⟩
  uncompiled : ∀ cause, compileSpec tools tree spec = .error cause → outcome =
    Outcome.after (noise tools tree spec) (cause.outcome tools [.typed, .value, .system] tree)
  silent : (∀ found, PatternSpec.load tools tree spec = .ok found → .debug ∉ found.flags) →
    noise tools tree spec = ""

theorem find_stops (htools : tools.Documented) {error : InputError}
    (h : readInput tree stdin options.input options.text = .error error)
    (hfamily : (RunError.input error).family = .value)
    (hplain : '\x1b' ∉ ("ERROR: " ++ error.kind ++ ": " ++ error.message).toList)
    (tags : List String) : Stops tools tree options.spec error (find tools tree stdin options tags) := by
  have hexit (cause : RunError) : (cause.outcome tools [.typed, .value, .system] tree).exit = 1 ∧
      (cause.outcome tools [.typed, .value, .system] tree).tree = tree := by
    unfold RunError.outcome
    split <;> exact ⟨rfl, rfl⟩
  cases hcompile : compileSpec tools tree options.spec with
  | error cause =>
      have hfind : find tools tree stdin options tags = Outcome.after (noise tools tree options.spec)
          (cause.outcome tools [.typed, .value, .system] tree) := by
        unfold find prepare
        rw [hcompile]
        rfl
      rw [hfind]
      refine ⟨(hexit cause).1, (hexit cause).2, fun pattern hpattern => ?_, fun other hother => ?_,
        noise_eq_empty htools⟩
      · cases hcompile.symm.trans hpattern
      · cases hcompile.symm.trans hother
        rfl
  | ok pattern =>
      have hfind : find tools tree stdin options tags = Outcome.after (noise tools tree options.spec)
          ⟨1, "ERROR: " ++ error.kind ++ ": " ++ error.message ++ "\n", tree, none⟩ := by
        unfold find prepare
        rw [hcompile, h, ← htools.echo_of_not_mem hplain]
        change Outcome.after _ ((RunError.input error).outcome tools [.typed, .value, .system] tree) = _
        unfold RunError.outcome
        rw [hfamily]
        rfl
      rw [hfind]
      refine ⟨rfl, rfl, fun _ _ => rfl, fun cause hcause => ?_, noise_eq_empty htools⟩
      cases hcompile.symm.trans hcause

-- A run whose options are all understood stops if its source gives no text.
theorem run_stops (htools : tools.Documented) {error : InputError}
    (hasks : Asks arguments others name text) (hinput : name.mapM (filePath tree) = .ok input)
    (h : readInput tree stdin input text = .error error)
    (hfamily : (RunError.input error).family = .value)
    (hplain : '\x1b' ∉ ("ERROR: " ++ error.kind ++ ": " ++ error.message).toList)
    (hok : readArguments tree arguments = .ok (.find options)) (tags : List String) :
    Stops tools tree options.spec error (run tools readArguments tree stdin arguments tags) := by
  have hsource := (readArguments_eq hasks hinput).symm.trans hok
  obtain ⟨others, hothers, hoptions⟩ := map_eq_ok.mp hsource
  cases hoptions
  rw [run_eq hasks hinput, hothers]
  exact find_stops htools h hfamily hplain tags

theorem escape_notMem {error : Utf8Error} :
    '\x1b' ∉ ("ERROR: UnicodeDecodeError: " ++ error.message).toList := by
  intro hmem
  rw [String.toList_append, List.mem_append] at hmem
  rcases hmem with hmem | hmem
  · exact absurd hmem (by decide)
  · exact absurd (Utf8Error.isPrintable_of_mem_message hmem) (by decide)

-- Bytes that are no text stop a run that is given them.
theorem Supplies.stops (htools : tools.Documented) {bytes : List UInt8} {error : Utf8Error}
    (h : Supplies tree others bytes stdin arguments) (hdecode : Utf8.decode bytes = .error error)
    (hok : readArguments tree arguments = .ok (.find options)) (tags : List String) :
    Stops tools tree options.spec (.unreadable (.undecodable error))
      (run tools readArguments tree stdin arguments tags) := by
  obtain ⟨name, input, hasks, hinput, hread⟩ := h.exists_source
  have htext : Files.textOf bytes = .error (.undecodable error) := by
    rw [Files.textOf, textOfBytes, hdecode]
    rfl
  rw [htext] at hread
  exact run_stops htools hasks hinput hread rfl escape_notMem hok tags

-- So do a text and a file that are given together.
theorem Asks.stops {name text : String} {request : Request} (htools : tools.Documented)
    (h : Asks arguments others (some name) (some text))
    (hok : readArguments tree arguments = .ok request) (stdin : List UInt8) (tags : List String) :
    ∃ options, request = .find options ∧ Stops tools tree options.spec .textAndFile
      (run tools readArguments tree stdin arguments tags) := by
  obtain ⟨input, hinput⟩ := exists_input h hok
  obtain ⟨path, rfl⟩ : ∃ path, input = some path := by
    cases hpath : filePath tree name with
    | error error => simp [hpath, Functor.map, Except.map] at hinput
    | ok path => simp_all [Functor.map, Except.map, eq_comm]
  obtain ⟨options, _, rfl⟩ := map_eq_ok.mp ((readArguments_eq h hinput).symm.trans hok)
  have hrefused : readInput tree stdin (some path) (some text) = .error .textAndFile := rfl
  exact ⟨_, rfl, run_stops htools h hinput hrefused rfl (by decide) hok tags⟩

end Command

end RecordPattern
