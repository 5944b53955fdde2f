import RecordPattern.Proofs.Composite.Fault

namespace RecordPattern

-- The text between the offsets of a placeholder.
def Placeholder.slice (placeholder : Placeholder) (text : List Char) : List Char :=
  (text.take placeholder.stop).drop placeholder.start

-- Texts come in the places of placeholders, one for each. A text that begins at an offset is taken
-- apart from left to right: what stands before a placeholder is kept, and what stands between its
-- offsets is replaced.
inductive Replaced : Nat → List Char → List Placeholder → List (List Char) → List Char → Prop
  | kept {offset : Nat} {text : List Char} : Replaced offset text [] [] text
  | span {offset : Nat} {kept old rest new filled : List Char} {placeholder : Placeholder}
      {placeholders : List Placeholder} {texts : List (List Char)}
      (hstart : placeholder.start = offset + kept.length)
      (hstop : placeholder.stop = placeholder.start + old.length)
      (hrest : Replaced placeholder.stop rest placeholders texts filled) :
      Replaced offset (kept ++ (old ++ rest)) (placeholder :: placeholders) (new :: texts)
        (kept ++ (new ++ filled))

-- With its own text in the place of each placeholder a text is what it was.
theorem Replaced.eq_of_slices {offset : Nat} {text filled : List Char} {placeholders : List Placeholder}
    {texts : List (List Char)} (h : Replaced offset text placeholders texts filled)
    (before : List Char) (hoffset : before.length = offset)
    (htexts : texts = placeholders.map (·.slice (before ++ text))) : filled = text := by
  induction h generalizing before with
  | kept => rfl
  | @span offset kept old rest new filled placeholder placeholders texts hstart hstop hrest ih =>
      obtain ⟨hnew, htexts⟩ := List.cons.inj htexts
      change new = placeholder.slice _ at hnew
      have hbefore : before ++ (kept ++ (old ++ rest)) = (before ++ kept ++ old) ++ rest := by simp
      have hstarts : placeholder.start = (before ++ kept).length := by
        rw [List.length_append]
        omega
      have hstops : placeholder.stop = (before ++ kept ++ old).length := by
        rw [List.length_append]
        omega
      have hold : new = old := by
        rw [hnew, Placeholder.slice, hbefore, hstops, List.take_left, hstarts, List.drop_left]
      have hfilled : filled = rest := by
        apply ih (before ++ kept ++ old) hstops.symm
        rw [htexts, hbefore]
      rw [hold, hfilled]

namespace Template

variable {m : Type → Type} [Monad m] {source : String} {known : List String}
  {template : Template}

-- The literal text of a template, with other text in the places of its references.
def spliced (template : Template) (texts : List (List Char)) : List Char :=
  (List.zipWith (fun piece text => piece.1 ++ text) template.pieces texts).flatten ++ template.tail

theorem replaced_cut (offset : Nat) (pieces : List Piece) (tail : List Char)
    {texts : List (List Char)} (hlength : texts.length = pieces.length) :
    Replaced offset (pieces.flatMap Piece.chars ++ tail) ((Piece.cut offset pieces).map (·.2)) texts
      ((List.zipWith (fun piece text => piece.1 ++ text) (Piece.cut offset pieces) texts).flatten ++
        tail) := by
  induction pieces generalizing offset texts with
  | nil =>
      rw [List.length_nil, List.length_eq_zero_iff] at hlength
      subst hlength
      exact .kept
  | cons piece pieces ih =>
      cases texts with
      | nil => cases hlength
      | cons text texts =>
          have hrest := ih (offset + piece.chars.length) (Nat.succ.inj hlength)
          have hstop : (piece.placeholder offset).stop =
              (piece.placeholder offset).start + piece.action.chars.length := by
            simp [Piece.placeholder, Piece.chars]
            omega
          have hspan : Replaced offset _ (piece.placeholder offset :: _) (text :: texts) _ :=
            .span rfl hstop hrest
          simpa [Piece.cut, Piece.chars] using hspan

theorem replaced_spliced (hparse : parse source = .ok template) {texts : List (List Char)}
    (hlength : texts.length = template.placeholders.length) :
    Replaced 0 source.toList template.placeholders texts (template.spliced texts) := by
  obtain ⟨derivation, hsource, rfl⟩ := parse_eq_ok_iff.mp hparse
  have hcount : derivation.template.placeholders.length = derivation.pieces.length := by
    have hfields := congrArg List.length (Piece.cut_fields 0 derivation.pieces)
    rw [List.length_map, List.length_map, List.length_map] at hfields
    rw [placeholders, List.length_map]
    exact hfields
  rw [← hsource]
  exact replaced_cut 0 derivation.pieces derivation.tail (hlength.trans hcount)

-- The renderer is asked for each placeholder in turn, and what it gives is put between the literal
-- text.
theorem fillPiecesM_eq [LawfulMonad m] (render : Placeholder → m (List Char))
    (pieces : List (List Char × Placeholder)) :
    fillPiecesM render pieces =
      (fun texts => (List.zipWith (fun piece text => piece.1 ++ text) pieces texts).flatten) <$>
        (pieces.map (·.2)).mapM render := by
  induction pieces with
  | nil => simp [fillPiecesM]
  | cons piece rest ih => simp [fillPiecesM, ih, map_bind]

theorem fillM_of_known [LawfulMonad m] (hparse : parse source = .ok template)
    (hknown : ∀ placeholder ∈ template.placeholders, placeholder.field ∈ known)
    (render : Placeholder → m (List Char)) :
    fillM source known render =
      (fun texts => .ok (String.ofList (template.spliced texts))) <$>
        template.placeholders.mapM render := by
  unfold fillM
  simp only [hparse, checkFields_of_known hknown, fillPiecesM_eq, map_eq_pure_bind, bind_assoc,
    pure_bind]
  rfl

theorem fillM_of_fault {fault : TemplateError} (hparse : parse source = .ok template)
    (hfault : template.checkFields known = .error fault) (render : Placeholder → m (List Char)) :
    fillM source known render = pure (.error fault) := by
  unfold fillM
  simp only [hparse, hfault]

theorem fillPieces_eq_fillPiecesM {σ : Type} (step : σ → Placeholder → List Char × σ)
    (pieces : List (List Char × Placeholder)) (state : σ) :
    fillPieces step pieces state =
      fillPiecesM (m := StateM σ) (fun placeholder state => step state placeholder) pieces state := by
  induction pieces generalizing state with
  | nil => rfl
  | cons piece rest ih =>
      simp only [fillPieces, ih]
      rfl

-- A renderer that keeps a state.
theorem fillText_eq_fillM {σ : Type} (source : String) (known : List String)
    (step : σ → Placeholder → List Char × σ) (state : σ) :
    fillText source known step state =
      let (outcome, last) :=
        fillM (m := StateM σ) source known (fun placeholder state => step state placeholder) state
      outcome.map (·, last) := by
  unfold fillText fillM
  cases hparse : parse source with
  | error fault => rfl
  | ok template =>
      cases hcheck : template.checkFields known with
      | error fault =>
          simp only [bind, Except.bind, hcheck]
          rfl
      | ok _ =>
          simp only [bind, Except.bind, hcheck]
          rw [fill, fillPieces_eq_fillPiecesM]
          rfl

theorem find?_fields (p : String → Bool) (template : Template) :
    template.fields.find? p =
      (template.placeholders.find? fun placeholder => p placeholder.field).map Placeholder.field := by
  have hhead : ∀ names : List String, names.eraseDups.head? = names.head? := by
    intro names
    cases names with
    | nil => rfl
    | cons name names => rw [List.eraseDups_cons, List.head?_cons, List.head?_cons]
  rw [fields, ← List.head?_filter, ← eraseDups_filter, hhead, List.head?_filter, List.find?_map]
  rfl

-- Filling a template takes its references one after another and replaces them, each by what the
-- renderer gives for it, and keeps all other text. A template that is malformed, or refers to a field
-- that is not known, is refused with no effect at all.
theorem fillM_replaces [LawfulMonad m] (source : String) (known : List String)
    (render : Placeholder → m (List Char)) :
    (∀ template, parse source = .ok template →
      (∀ placeholder ∈ template.placeholders, placeholder.field ∈ known) →
      fillM source known render =
          (fun texts => .ok (String.ofList (template.spliced texts))) <$>
            template.placeholders.mapM render ∧
        (∀ texts : List (List Char), texts.length = template.placeholders.length →
          Replaced 0 source.toList template.placeholders texts (template.spliced texts)) ∧
        template.spliced (template.placeholders.map (·.slice source.toList)) = source.toList) ∧
    (∀ template, parse source = .ok template →
      (∃ placeholder ∈ template.placeholders, placeholder.field ∉ known) →
      ∃ placeholder, template.FirstUnknown known placeholder ∧
        template.fields.find? (!known.contains ·) = some placeholder.field ∧
        fillM source known render =
          pure (.error (.unknownField placeholder.start placeholder.field))) ∧
    (∀ fault, parse source = .error fault → fillM source known render = pure (.error fault)) ∧
    ∀ (σ : Type) (step : σ → Placeholder → List Char × σ) (state : σ),
      fillText source known step state =
        let (outcome, last) :=
          fillM (m := StateM σ) source known (fun placeholder state => step state placeholder) state
        outcome.map (·, last) := by
  refine ⟨fun template hparse hknown => ⟨fillM_of_known hparse hknown render, ?_, ?_⟩,
    fun template hparse hunknown => ?_, fun fault hparse => ?_,
    fun σ step state => fillText_eq_fillM source known step state⟩
  · intro texts hlength
    exact replaced_spliced hparse hlength
  · have hlength : (template.placeholders.map (·.slice source.toList)).length =
        template.placeholders.length := List.length_map _
    exact (replaced_spliced hparse hlength).eq_of_slices [] rfl rfl
  · cases hcheck : template.checkFields known with
    | ok _ =>
        obtain ⟨placeholder, hmem, hnot⟩ := hunknown
        exact absurd (checkFields_eq_ok hcheck placeholder hmem) hnot
    | error fault =>
        obtain ⟨placeholder, hfirst, rfl⟩ := checkFields_eq_error_iff.mp hcheck
        refine ⟨placeholder, hfirst, ?_, fillM_of_fault hparse hcheck render⟩
        rw [find?_fields, find?_eq_some_iff_firstUnknown.mpr hfirst]
        rfl
  · unfold fillM
    simp only [hparse]

-- A renderer that takes note of its calls, and gives a text that looks like a reference.
theorem fillM_replaces_noted :
    let note : Placeholder → StateM (List Placeholder) (List Char) :=
      fun placeholder calls => ("\x7b\x7b.C\x7d\x7d".toList, calls ++ [placeholder])
    (∃ template, parse "-\x7b\x7b.A\x7d\x7d\x7b\x7b .B \x7d\x7d\x7b\x7b.A\x7d\x7d+" = .ok template ∧
      (∀ placeholder ∈ template.placeholders, placeholder.field ∈ ["A", "B", "C"]) ∧
      fillM "-\x7b\x7b.A\x7d\x7d\x7b\x7b .B \x7d\x7d\x7b\x7b.A\x7d\x7d+" ["A", "B", "C"] note [] =
        (.ok "-\x7b\x7b.C\x7d\x7d\x7b\x7b.C\x7d\x7d\x7b\x7b.C\x7d\x7d+",
          [⟨"A", 1, 7⟩, ⟨"B", 7, 15⟩, ⟨"A", 15, 21⟩])) ∧
    fillM "\x7b\x7b.A\x7d\x7d\x7b\x7b.B\x7d\x7d" ["B"] note [] = (.error (.unknownField 0 "A"), []) := by
  intro note
  constructor
  · have hready : ∃ template,
        parse "-\x7b\x7b.A\x7d\x7d\x7b\x7b .B \x7d\x7d\x7b\x7b.A\x7d\x7d+" = .ok template ∧
        template = ⟨[(['-'], ⟨"A", 1, 7⟩), ([], ⟨"B", 7, 15⟩), ([], ⟨"A", 15, 21⟩)], ['+']⟩ := by
      decide +kernel
    obtain ⟨template, hparse, htemplate⟩ := hready
    have hknown : ∀ placeholder ∈ template.placeholders, placeholder.field ∈ ["A", "B", "C"] := by
      rw [htemplate]
      decide
    refine ⟨template, hparse, hknown, ?_⟩
    rw [((fillM_replaces _ _ _).1 template hparse hknown).1, htemplate]
    rfl
  · have hready : ∃ template, parse "\x7b\x7b.A\x7d\x7d\x7b\x7b.B\x7d\x7d" = .ok template ∧
        template = ⟨[([], ⟨"A", 0, 6⟩), ([], ⟨"B", 6, 12⟩)], []⟩ := by
      decide +kernel
    obtain ⟨template, hparse, htemplate⟩ := hready
    have hunknown : ∃ placeholder ∈ template.placeholders, placeholder.field ∉ ["B"] := by
      rw [htemplate]
      decide
    obtain ⟨placeholder, hfirst, _, hfill⟩ := (fillM_replaces _ ["B"] note).2.1 template hparse hunknown
    have hfound := find?_eq_some_iff_firstUnknown.mpr hfirst
    rw [htemplate] at hfound
    cases hfound
    exact congrFun hfill []

end Template

end RecordPattern
