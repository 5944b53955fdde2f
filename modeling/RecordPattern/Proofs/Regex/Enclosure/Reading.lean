import RecordPattern.Proofs.Regex.Enclosure.FlagGroup
import RecordPattern.Proofs.Regex.Enclosure.Frames

namespace RecordPattern.Regex

open Outcome Cursor Text

namespace Reading

-- Where the reading of a pattern inside of other groups stands, and where the reading of the
-- pattern by itself stands at the same place.
structure Inside (enclosure : Enclosure) (inner outer : Reading) : Prop where
  cursor : Within enclosure.closing inner.cursor outer.cursor
  groups : inner.groups.Inside enclosure.name outer.groups
  frames : Stacked enclosure inner.frame inner.outer outer.frame outer.outer

-- The end of the pattern has come while groups are open.
def Doomed (reading : Reading) : Prop :=
  reading.cursor.rest = [] ∧ reading.outer ≠ []

variable {enclosure : Enclosure} {inner outer : Reading}
  {within around : Cursor}

namespace Inside

theorem flags_eq (h : Inside enclosure inner outer) :
    outer.frame.flags = inner.frame.flags :=
  h.frames.mirrors.flags

theorem moved (h : Inside enclosure inner outer) (hcursor : Within enclosure.closing within around) :
    Inside enclosure { inner with cursor := within } { outer with cursor := around } :=
  ⟨hcursor, h.groups, h.frames⟩

theorem pushItem (h : Inside enclosure inner outer) (hcursor : Within enclosure.closing within around)
    {item : Item} (hitem : item.Positive) :
    Inside enclosure (inner.pushItem item within) (outer.pushItem item.raise around) :=
  ⟨hcursor, h.groups, h.frames.replace rfl rfl (h.frames.mirrors.push hitem)⟩

theorem pushNode (h : Inside enclosure inner outer) (hcursor : Within enclosure.closing within around)
    (node : Node) (hnode : node.Positive) :
    Inside enclosure (inner.pushNode node within) (outer.pushNode node.raise around) :=
  h.pushItem hcursor (Item.node_positive hnode)

theorem pushChar (h : Inside enclosure inner outer) (hcursor : Within enclosure.closing within around)
    (c : Char) :
    Inside enclosure (inner.pushChar c within) (outer.pushChar c around) := by
  unfold Reading.pushChar
  rw [h.flags_eq]
  exact h.pushNode hcursor _ trivial

theorem openFrame (h : Inside enclosure inner outer) (hcursor : Within enclosure.closing within around)
    (opening : Opening) (hopening : opening.Positive) (start start' : Nat) (flags : Flags) :
    Inside enclosure (inner.openFrame opening start flags within)
      (outer.openFrame opening.raise start' flags around) :=
  ⟨hcursor, h.groups, .above rfl hopening (.opened _ _ _ _ _) h.frames⟩

end Inside

-- How often a quantifier repeats, as far as the character after it tells.
def greedAt (cursor : Cursor) : Greed :=
  if cursor.nextIs '?' then .lazy else if cursor.nextIs '+' then .possessive else .greedy

theorem repeatLast_eq_ok {reading next : Reading} {start least : Nat} {greatest : Option Nat}
    {cursor : Cursor} (h : repeatLast reading start least greatest cursor = .ok next) :
    ∃ item items after, reading.frame.items = item :: items ∧
      cursor.skip (if greedAt cursor = .greedy then 0 else 1) = .ok after ∧
      next = { reading with
        cursor := after
        frame := { reading.frame with
          items := .node (.repetition (greedAt cursor) least greatest item.toNode) :: items } } := by
  unfold repeatLast at h
  split at h
  · cases h
  · cases h
  · cases h
  next item items _ _ hitems =>
    obtain ⟨after, hskip, h⟩ := bind_eq_ok.mp h
    cases h
    exact ⟨item, items, after, hitems, hskip, rfl⟩

theorem greedAt_eq (h : Within enclosure.closing within around) :
    greedAt around = greedAt within := by
  unfold greedAt
  rw [h.nextIs_eq (by decide), h.nextIs_eq (by decide)]

theorem greedAt_length (cursor : Cursor) :
    (if greedAt cursor = .greedy then 0 else 1) ≤ cursor.rest.length := by
  unfold greedAt
  cases hlazy : cursor.nextIs '?' with
  | true => exact length_pos_of_nextIs hlazy
  | false =>
      cases hpossessive : cursor.nextIs '+' with
      | true => exact length_pos_of_nextIs hpossessive
      | false => exact Nat.zero_le _

theorem repeatLast_inside (h : Inside enclosure inner outer)
    (hcursor : Within enclosure.closing within around) (start start' least : Nat) (greatest : Option Nat) :
    Relates (Inside enclosure) (repeatLast inner start least greatest within)
      (repeatLast outer start' least greatest around) := by
  intro next follow hnext hfollow
  obtain ⟨item, items, after, hitems, hskip, rfl⟩ := repeatLast_eq_ok hnext
  obtain ⟨item', items', after', hitems', hskip', rfl⟩ := repeatLast_eq_ok hfollow
  have hmirrors := h.frames.mirrors
  rw [greedAt_eq hcursor] at hskip' ⊢
  have hafter := hcursor.skip (greedAt_length within) _ _ hskip hskip'
  rw [hmirrors.items, hitems, List.map_cons] at hitems'
  cases hitems'
  have hpositive := hmirrors.items_positive
  rw [hitems] at hpositive
  obtain ⟨hitem, hrest⟩ := List.forall_mem_cons.mp hpositive
  refine ⟨hafter, h.groups, h.frames.replace rfl rfl ⟨hmirrors.flags, hmirrors.branches, ?_,
    hmirrors.branches_positive, ?_⟩⟩
  · rw [Item.toNode_raise]
    rfl
  · exact List.forall_mem_cons.mpr ⟨Item.node_positive (Item.toNode_positive hitem), hrest⟩

-- Braces give the same bounds inside of a group.
theorem braces?_append (closing : Closing) (tokens : List Token) :
    braces? (tokens ++ closing.tokens) = braces? tokens := by
  unfold braces?
  have hlow : plainRun Char.isDigit (tokens ++ closing.tokens).length (tokens ++ closing.tokens) =
      plainRun Char.isDigit tokens.length tokens :=
    digits_append closing (Nat.le_refl _) (by simp)
  have hdrop : ∀ {count : Nat} {rest : List Token}, count ≤ rest.length →
      (rest ++ closing.tokens).drop count = rest.drop count ++ closing.tokens :=
    List.drop_append_of_le_length
  simp only [hlow, hdrop (plainRun_length_le _ _ _), ne_eq, head?_append closing _ (show ',' ≠ ')' by decide),
    head?_append closing _ (show '\x7d' ≠ ')' by decide)]
  generalize tokens.drop (plainRun Char.isDigit tokens.length tokens).length = after
  by_cases hcomma : after.head? = some (.plain ',')
  · obtain ⟨rest, rfl⟩ := List.head?_eq_some_iff.mp hcomma
    have hhigh : plainRun Char.isDigit (Token.plain ',' :: rest ++ closing.tokens).length (rest ++ closing.tokens) =
        plainRun Char.isDigit (Token.plain ',' :: rest).length rest :=
      digits_append closing (Nat.le_succ _) (by simp; omega)
    have hlast : 1 + (plainRun Char.isDigit (Token.plain ',' :: rest).length rest).length ≤
        (Token.plain ',' :: rest).length := by
      rw [Nat.add_comm]
      exact Nat.succ_le_succ (plainRun_length_le _ _ _)
    simp only [if_pos hcomma, List.drop_one, List.tail_cons, List.cons_append] at hhigh ⊢
    have hpast := hdrop hlast
    rw [List.cons_append] at hpast
    simp only [hhigh, hpast, head?_append closing _ (show '\x7d' ≠ ')' by decide)]
  · simp only [if_neg hcomma, List.drop_zero, head?_append closing _ (show '\x7d' ≠ ')' by decide)]

-- The tokens of braces that are read are there.
theorem braces?_length {tokens : List Token} {low high : List Char} {length : Nat}
    (h : braces? tokens = some (low, high, length)) : length ≤ tokens.length := by
  unfold braces? at h
  simp only at h
  generalize (if (tokens.drop (plainRun Char.isDigit tokens.length tokens).length).head? =
    some (.plain ',') then _ else _) = bounds at h
  obtain ⟨bound, last⟩ := bounds
  simp only at h
  split at h
  next hbrace =>
    cases h
    rw [Bool.and_eq_true, decide_eq_true_eq, decide_eq_true_eq] at hbrace
    obtain ⟨rest, hrest⟩ := List.head?_eq_some_iff.mp hbrace.2
    have hlength := congrArg List.length hrest
    simp only [List.length_drop, List.length_cons] at hlength
    omega
  · cases h

theorem readBraces_inside (h : Inside enclosure inner outer)
    (hcursor : Within enclosure.closing within around) :
    Relates (Inside enclosure) (readBraces inner within) (readBraces outer around) := by
  unfold readBraces
  rw [hcursor.rest, braces?_append]
  cases hbraces : braces? within.rest with
  | none => exact .ok (h.pushChar hcursor _)
  | some bounds =>
      obtain ⟨low, high, length⟩ := bounds
      refine .bind _ (hcursor.skip (braces?_length hbraces)) fun after further hafter => ?_
      refine .bind _ (.refl (bound low)) ?_
      rintro least _ rfl
      refine .bind _ (.refl (bound high)) ?_
      rintro greatest _ rfl
      cases greatest with
      | none => exact repeatLast_inside h hafter _ _ _ _
      | some greatest =>
          refine .ite (fun _ => .errorLeft _) fun _ => ?_
          exact repeatLast_inside h hafter _ _ _ _

end Reading

end RecordPattern.Regex
