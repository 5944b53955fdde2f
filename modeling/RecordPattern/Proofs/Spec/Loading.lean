import RecordPattern.Proofs.Files.Tree
import RecordPattern.Proofs.Outcome
import RecordPattern.Proofs.Text.LineEnds
import RecordPattern.Proofs.Text.Utf8
import RecordPattern.Spec.Load
import RecordPattern.Toolkit.Standard

namespace RecordPattern

open Outcome Text

-- A file that can be read, in UTF-8, and its text with line feeds for line ends.
def Files.Tree.Holds (tree : Files.Tree) (path : Files.Path) (content : String) : Prop :=
  path.hasNull = false ∧ ∃ text : String,
    tree.read path = .ok (Utf8.encode text.toList) ∧ withLineFeeds text = content

theorem Files.Tree.readText_eq_ok_iff {tree : Files.Tree} {path : Files.Path} {content : String} :
    tree.readText path = .ok content ↔ tree.Holds path content := by
  unfold Files.Tree.readText Files.Tree.Holds
  cases hnull : path.hasNull with
  | true => simp
  | false =>
      simp only [Bool.false_eq_true, if_false, bind_eq_ok, mapError_eq_ok, true_and, Files.textOf,
        textOfBytes, map_eq_ok, Utf8.decode_eq_ok_iff]
      constructor
      · rintro ⟨_, hread, text, rfl, rfl⟩
        exact ⟨String.ofList text, by simpa using hread, by simp [withLineFeeds_eq]⟩
      · rintro ⟨text, hread, rfl⟩
        exact ⟨_, hread, text.toList, rfl, (withLineFeeds_eq text).symm⟩

theorem Files.Tree.readText_eq_error_iff {tree : Files.Tree} {path : Files.Path}
    {failure : Files.ReadError} : tree.readText path = .error failure ↔
      (path.hasNull = true ∧ failure = .nullInPath) ∨
        (path.hasNull = false ∧ ∃ fault, tree.read path = .error fault ∧
          failure = .system ⟨fault, path.text, none⟩) ∨
        (path.hasNull = false ∧ ∃ bytes issue, tree.read path = .ok bytes ∧
          Utf8.decode bytes = .error issue ∧ failure = .undecodable issue) := by
  unfold Files.Tree.readText
  cases hnull : path.hasNull with
  | true => simp [eq_comm]
  | false =>
      simp only [Bool.false_eq_true, if_false, bind_eq_error, mapError_eq_ok, mapError_eq_error,
        Files.textOf, textOfBytes, map_eq_error, true_and, false_and, false_or]
      constructor
      · rintro (⟨fault, hread, rfl⟩ | ⟨bytes, hread, issue, hissue, rfl⟩)
        · exact .inl ⟨fault, hread, rfl⟩
        · exact .inr ⟨bytes, issue, hread, hissue, rfl⟩
      · rintro (⟨fault, hread, rfl⟩ | ⟨bytes, issue, hread, hissue, rfl⟩)
        · exact .inl ⟨fault, hread, rfl⟩
        · exact .inr ⟨bytes, hread, issue, hissue, rfl⟩

namespace PatternSpec

variable {tools : Toolkit} {tree : Files.Tree} {path : Files.Path} {spec : PatternSpec}
  {error : SpecLoadError}

-- A file that holds a mapping in order, and the spec that it stands for.
def Loaded (tools : Toolkit) (tree : Files.Tree) (path : Files.Path) (spec : PatternSpec) : Prop :=
  ∃ content value store entries, tree.Holds path content ∧
    tools.document content = .ok (value, store) ∧ store.contents value = .mapping false entries ∧
    tools.spec store value = .ok spec

-- What is wrong with a file where the error says which file it is.
inductive Reported (tools : Toolkit) (tree : Files.Tree) (path : Files.Path) : SpecLoadError → Prop
  | notFound (hnull : path.hasNull = false) (hread : tree.read path = .error .missing) :
      Reported tools tree path (.notFound path.text)
  | notYaml {content : String} (hcontent : tree.Holds path content)
      (hdocument : tools.document content = .error .malformed) :
      Reported tools tree path (.notYaml path.text)
  | notAMapping {content : String} {value : Value} {store : Store} (hcontent : tree.Holds path content)
      (hdocument : tools.document content = .ok (value, store))
      (hvalue : ∀ entries, store.contents value ≠ .mapping false entries) :
      Reported tools tree path (.notAMapping path.text)
  | invalid {content : String} {value : Value} {store : Store} {entries : List (Value × Value)}
      {errors : List SpecError} (hcontent : tree.Holds path content)
      (hdocument : tools.document content = .ok (value, store))
      (hvalue : store.contents value = .mapping false entries)
      (herrors : tools.spec store value = .error (.invalid errors)) :
      Reported tools tree path (.invalid path.text errors)

-- What is wrong with a file where the error is passed on as it is.
inductive Escaped (tools : Toolkit) (tree : Files.Tree) (path : Files.Path) : SpecLoadError → Prop
  | nullInPath (hnull : path.hasNull = true) : Escaped tools tree path (.unreadable .nullInPath)
  | refused {fault : Files.Fault} (hnull : path.hasNull = false)
      (hread : tree.read path = .error fault) (hfault : fault ≠ .missing) :
      Escaped tools tree path (.unreadable (.system ⟨fault, path.text, none⟩))
  | undecodable {bytes : List UInt8} {error : Utf8Error} (hnull : path.hasNull = false)
      (hread : tree.read path = .ok bytes) (hbytes : Utf8.decode bytes = .error error) :
      Escaped tools tree path (.unreadable (.undecodable error))
  | stopped {content : String} {error : ForeignError} (hcontent : tree.Holds path content)
      (hdocument : tools.document content = .error (.other error)) :
      Escaped tools tree path (.foreign error)
  | unchecked {content : String} {value : Value} {store : Store} {entries : List (Value × Value)}
      {error : ForeignError} (hcontent : tree.Holds path content)
      (hdocument : tools.document content = .ok (value, store))
      (hvalue : store.contents value = .mapping false entries)
      (herror : tools.spec store value = .error (.other error)) :
      Escaped tools tree path (.foreign error)

-- A file that is not there, or holds a text that neither the reader of documents nor the check of
-- specs stumbles over.
inductive Sound (tools : Toolkit) (tree : Files.Tree) (path : Files.Path) : Prop
  | missing (hnull : path.hasNull = false) (hread : tree.read path = .error .missing)
  | content {content : String} (hcontent : tree.Holds path content)
      (hread : ∀ error, tools.document content ≠ .error (.other error))
      (hchecked : ∀ value store entries error, tools.document content = .ok (value, store) →
        store.contents value = .mapping false entries → tools.spec store value ≠ .error (.other error))

-- Loading stops where the file cannot be read, and goes on with its text otherwise.
theorem load_of_unreadable (h : readFile tree path = .error error) :
    load tools tree path = .error error :=
  bind_eq_error.mpr (.inl h)

theorem load_of_holds {content : String} (hcontent : tree.Holds path content) :
    load tools tree path = (do
      let (raw, store) ← parse tools path content
      if isMapping (store.contents raw) then check tools path store raw
      else .error (.notAMapping path.text)) := by
  have hread : readFile tree path = .ok content :=
    mapError_eq_ok.mpr (Files.Tree.readText_eq_ok_iff.mpr hcontent)
  rw [load, hread]
  rfl

theorem load_of_document {content : String} {value : Value} {store : Store}
    (hcontent : tree.Holds path content) (hdocument : tools.document content = .ok (value, store)) :
    load tools tree path = if isMapping (store.contents value) then check tools path store value
      else .error (.notAMapping path.text) := by
  rw [load_of_holds hcontent, parse, hdocument]
  rfl

theorem isMapping_iff {value : Value} :
    isMapping value = true ↔ ∃ entries, value = .mapping false entries := by
  cases value with
  | mapping readOnly entries => cases readOnly <;> simp [isMapping]
  | _ => simp [isMapping]

theorem load_of_mapping {content : String} {value : Value} {store : Store}
    {entries : List (Value × Value)} (hcontent : tree.Holds path content)
    (hdocument : tools.document content = .ok (value, store))
    (hvalue : store.contents value = .mapping false entries) :
    load tools tree path = check tools path store value := by
  rw [load_of_document hcontent hdocument, if_pos (isMapping_iff.mpr ⟨_, hvalue⟩)]

theorem Loaded.load (h : Loaded tools tree path spec) : load tools tree path = .ok spec := by
  obtain ⟨content, value, store, entries, hcontent, hdocument, hvalue, hspec⟩ := h
  rw [load_of_mapping hcontent hdocument hvalue]
  exact mapError_eq_ok.mpr hspec

theorem Reported.load (h : Reported tools tree path error) : load tools tree path = .error error := by
  cases h with
  | notFound hnull hread =>
      have hfailure := Files.Tree.readText_eq_error_iff.mpr (.inr (.inl ⟨hnull, _, hread, rfl⟩))
      exact load_of_unreadable (mapError_eq_error.mpr ⟨_, hfailure, rfl⟩)
  | notYaml hcontent hdocument =>
      rw [load_of_holds hcontent, parse, hdocument]
      rfl
  | notAMapping hcontent hdocument hvalue =>
      rw [load_of_document hcontent hdocument, if_neg]
      intro hmapping
      obtain ⟨entries, hsome⟩ := isMapping_iff.mp hmapping
      exact hvalue entries hsome
  | invalid hcontent hdocument hvalue herrors =>
      rw [load_of_mapping hcontent hdocument hvalue]
      exact mapError_eq_error.mpr ⟨_, herrors, rfl⟩

theorem Escaped.load (h : Escaped tools tree path error) : load tools tree path = .error error := by
  cases h with
  | nullInPath hnull =>
      have hfailure : tree.readText path = .error .nullInPath :=
        Files.Tree.readText_eq_error_iff.mpr (.inl ⟨hnull, rfl⟩)
      exact load_of_unreadable (mapError_eq_error.mpr ⟨_, hfailure, rfl⟩)
  | @refused fault hnull hread hfault =>
      have hfailure := Files.Tree.readText_eq_error_iff.mpr (.inr (.inl ⟨hnull, _, hread, rfl⟩))
      refine load_of_unreadable (mapError_eq_error.mpr ⟨_, hfailure, ?_⟩)
      cases fault <;> first | exact absurd rfl hfault | rfl
  | undecodable hnull hread hbytes =>
      have hfailure := Files.Tree.readText_eq_error_iff.mpr
        (.inr (.inr ⟨hnull, _, _, hread, hbytes, rfl⟩))
      exact load_of_unreadable (mapError_eq_error.mpr ⟨_, hfailure, rfl⟩)
  | stopped hcontent hdocument =>
      rw [load_of_holds hcontent, parse, hdocument]
      rfl
  | unchecked hcontent hdocument hvalue herror =>
      rw [load_of_mapping hcontent hdocument hvalue]
      exact mapError_eq_error.mpr ⟨_, herror, rfl⟩

-- A file that cannot be read is not there, unless what stands in the way is passed on.
theorem missing_or_escaped {failure : Files.ReadError} (h : tree.readText path = .error failure) :
    (path.hasNull = false ∧ tree.read path = .error .missing) ∨
      ∃ error, Escaped tools tree path error := by
  rcases Files.Tree.readText_eq_error_iff.mp h with
    ⟨hnull, _⟩ | ⟨hnull, fault, hfault, _⟩ | ⟨hnull, bytes, issue, hbytes, hissue, _⟩
  · exact .inr ⟨_, .nullInPath hnull⟩
  · by_cases hmissing : fault = .missing
    · exact .inl ⟨hnull, hmissing ▸ hfault⟩
    · exact .inr ⟨_, .refused hnull hfault hmissing⟩
  · exact .inr ⟨_, .undecodable hnull hbytes hissue⟩

-- Whatever loading comes to, there is a cause of it.
theorem load_cases (tools : Toolkit) (tree : Files.Tree) (path : Files.Path) :
    (∃ spec, Loaded tools tree path spec) ∨
      ∃ error, Reported tools tree path error ∨ Escaped tools tree path error := by
  cases hread : tree.readText path with
  | error failure =>
      right
      rcases missing_or_escaped hread with ⟨hnull, hmissing⟩ | ⟨error, herror⟩
      · exact ⟨_, .inl (.notFound hnull hmissing)⟩
      · exact ⟨error, .inr herror⟩
  | ok content =>
      have hcontent := Files.Tree.readText_eq_ok_iff.mp hread
      cases hdocument : tools.document content with
      | error failure =>
          right
          cases failure with
          | malformed => exact ⟨_, .inl (.notYaml hcontent hdocument)⟩
          | other error => exact ⟨_, .inr (.stopped hcontent hdocument)⟩
      | ok found =>
          obtain ⟨value, store⟩ := found
          by_cases hmapping : isMapping (store.contents value) = true
          · obtain ⟨entries, hvalue⟩ := isMapping_iff.mp hmapping
            cases hspec : tools.spec store value with
            | ok spec =>
                exact .inl ⟨spec, content, value, store, entries, hcontent, hdocument, hvalue, hspec⟩
            | error failure =>
                right
                cases failure with
                | invalid errors => exact ⟨_, .inl (.invalid hcontent hdocument hvalue hspec)⟩
                | other error => exact ⟨_, .inr (.unchecked hcontent hdocument hvalue hspec)⟩
          · refine .inr ⟨_, .inl (.notAMapping hcontent hdocument fun entries hvalue => ?_)⟩
            exact hmapping (isMapping_iff.mpr ⟨entries, hvalue⟩)

theorem load_eq_ok_iff : load tools tree path = .ok spec ↔ Loaded tools tree path spec := by
  refine ⟨fun h => ?_, Loaded.load⟩
  rcases load_cases tools tree path with ⟨other, hother⟩ | ⟨error, herror⟩
  · cases hother.load.symm.trans h
    exact hother
  · cases (herror.elim Reported.load Escaped.load).symm.trans h

theorem load_eq_error_iff : load tools tree path = .error error ↔
    Reported tools tree path error ∨ Escaped tools tree path error := by
  refine ⟨fun h => ?_, fun h => h.elim Reported.load Escaped.load⟩
  rcases load_cases tools tree path with ⟨spec, hspec⟩ | ⟨other, hother⟩
  · cases hspec.load.symm.trans h
  · cases (hother.elim Reported.load Escaped.load).symm.trans h
    exact hother

-- A file that is read as one text is not read as another.
theorem holds_unique {content other : String} (h : tree.Holds path content)
    (hother : tree.Holds path other) : content = other := by
  rw [← Files.Tree.readText_eq_ok_iff] at h hother
  exact Except.ok.inj (h.symm.trans hother)

theorem Sound.not_escaped (h : Sound tools tree path) (error : SpecLoadError) :
    ¬Escaped tools tree path error := by
  intro hescaped
  cases h with
  | missing hnull hread =>
      have hmissing : load tools tree path = .error (.notFound path.text) :=
        (Reported.notFound hnull hread).load
      cases hescaped.load.symm.trans hmissing
      cases hescaped
  | content hcontent hsteady hchecked =>
      obtain ⟨hnull, text, hread, htext⟩ := id hcontent
      cases hescaped with
      | nullInPath hother => cases hnull.symm.trans hother
      | refused _ hother => cases hread.symm.trans hother
      | undecodable _ hother hbytes =>
          cases hread.symm.trans hother
          cases (Utf8.decode_encode text.toList).symm.trans hbytes
      | stopped hother hdocument => exact hsteady _ (holds_unique hcontent hother ▸ hdocument)
      | unchecked hother hdocument hvalue herror =>
          exact hchecked _ _ _ _ (holds_unique hcontent hother ▸ hdocument) hvalue herror

theorem sound_iff : Sound tools tree path ↔ ∀ error, ¬Escaped tools tree path error := by
  refine ⟨Sound.not_escaped, fun h => ?_⟩
  cases hread : tree.readText path with
  | error failure =>
      rcases missing_or_escaped hread with ⟨hnull, hmissing⟩ | ⟨error, herror⟩
      · exact .missing hnull hmissing
      · exact absurd herror (h error)
  | ok content =>
      have hcontent := Files.Tree.readText_eq_ok_iff.mp hread
      exact .content hcontent (fun _ hdocument => h _ (.stopped hcontent hdocument))
        fun _ _ _ _ hdocument hvalue herror => h _ (.unchecked hcontent hdocument hvalue herror)

-- The kinds of errors that are passed on where a file cannot be read.
def unreadableKinds : List String :=
  ["ValueError", "UnicodeDecodeError", "NotADirectoryError", "IsADirectoryError", "OSError"]

theorem Escaped.kind_mem {failure : Files.ReadError}
    (h : Escaped tools tree path (.unreadable failure)) : failure.kind ∈ unreadableKinds := by
  cases h with
  | nullInPath => decide
  | @refused fault _ hread hfault =>
      have hmem := Files.Tree.read_fault hread
      simp only [List.mem_cons, List.not_mem_nil, or_false] at hmem
      rcases hmem with rfl | rfl | rfl | rfl
      · exact absurd rfl hfault
      all_goals simp [unreadableKinds, Files.ReadError.kind, Files.Fault.kind]
  | undecodable => simp [unreadableKinds, Files.ReadError.kind]

theorem Reported.not_escaped (h : Reported tools tree path error) : ¬Escaped tools tree path error := by
  intro hescaped
  cases hescaped <;> cases h

-- Loading gives a spec just for a file that holds one. Otherwise it fails with an error that names
-- the file, or passes on what stopped it, each just for its cause; and something is passed on just
-- if the system refuses the file, its bytes are no text, or the reader of documents or the check of
-- specs stumbles over its text.
theorem load_contract (tools : Toolkit) (tree : Files.Tree) (path : Files.Path) :
    (∀ spec, load tools tree path = .ok spec ↔ Loaded tools tree path spec) ∧
      (∀ error, load tools tree path = .error error ↔
        Reported tools tree path error ∨ Escaped tools tree path error) ∧
      (∀ error, Reported tools tree path error →
        error.kind = "ValueError" ∧ ∃ cause, error.message = cause ++ path.text) ∧
      (∀ failure, Escaped tools tree path (.unreadable failure) → failure.kind ∈ unreadableKinds) ∧
      (Sound tools tree path ↔ (∃ spec, load tools tree path = .ok spec) ∨
        ∃ error, load tools tree path = .error error ∧ Reported tools tree path error) := by
  refine ⟨fun _ => load_eq_ok_iff, fun _ => load_eq_error_iff, fun error herror => ?_,
    fun _ => Escaped.kind_mem, fun hsound => ?_,
    fun hcontract => sound_iff.mpr fun error hescaped => ?_⟩
  · cases herror <;> exact ⟨rfl, _, rfl⟩
  · rcases load_cases tools tree path with ⟨spec, hspec⟩ | ⟨error, herror | herror⟩
    · exact .inl ⟨spec, hspec.load⟩
    · exact .inr ⟨error, herror.load, herror⟩
    · exact absurd herror (hsound.not_escaped error)
  · rcases hcontract with ⟨spec, hspec⟩ | ⟨other, hother, hreported⟩
    · cases hspec.symm.trans hescaped.load
    · cases hother.symm.trans hescaped.load
      exact hreported.not_escaped hescaped

-- A root directory with a spec in a file of its own.
def oneSpec (text : String) : Files.Tree :=
  ⟨[(["s"], .file (Utf8.encode text.toList))], []⟩

def plainText : String := "template: x\nfields: \x7bA: x\x7d"

-- The file beside it is not there.
theorem load_contract_texts :
    ((SpecLoadError.notFound "t").kind = "ValueError" ∧
      ∃ cause, (SpecLoadError.notFound "t").message = cause ++ "t") ∧
    ((∃ spec, load .standard (oneSpec plainText) ⟨"", ["s"]⟩ = .ok spec) ∨
      ∃ error, load .standard (oneSpec plainText) ⟨"", ["s"]⟩ = .error error ∧
        Reported .standard (oneSpec plainText) ⟨"", ["s"]⟩ error) := by
  have hmissing : Reported .standard (oneSpec plainText) ⟨"", ["t"]⟩ (.notFound "t") :=
    .notFound (by decide +kernel) (by decide +kernel)
  have hcontent : (oneSpec plainText).Holds ⟨"", ["s"]⟩ plainText :=
    ⟨by decide +kernel, plainText, by decide +kernel, by decide +kernel⟩
  have hfound : ∃ found, Toolkit.standard.document plainText = .ok found ∧
      ∃ spec, Toolkit.standard.spec found.2 found.1 = .ok spec ∧ spec.template = "x" := by
    decide +kernel
  obtain ⟨⟨value, store⟩, hdocument, spec, hspec, _⟩ := hfound
  have hsound : Sound .standard (oneSpec plainText) ⟨"", ["s"]⟩ := by
    refine .content hcontent (fun error herror => ?_) fun other held entries error hother _ herror => ?_
    · cases hdocument.symm.trans herror
    · cases hdocument.symm.trans hother
      cases hspec.symm.trans herror
  exact ⟨(load_contract .standard _ ⟨"", ["t"]⟩).2.2.1 _ hmissing,
    (load_contract .standard _ _).2.2.2.2.mp hsound⟩

-- The words of an explicit bool are looked up, and a word that is missing is passed on as it is.
theorem load_passes_on_bool : ¬∀ (tree : Files.Tree) (path : Files.Path),
    (∃ spec, load .standard tree path = .ok spec) ∨ ∃ error, load .standard tree path = .error error ∧
      error.kind = "ValueError" ∧ ∃ before after, error.message = before ++ path.text ++ after := by
  intro h
  have hload : load .standard (oneSpec "template: !!bool x\nfields: \x7bA: x\x7d") ⟨"", ["s"]⟩ =
      .error (.foreign ⟨"KeyError", "'x'", .other⟩) := by decide +kernel
  rcases h (oneSpec "template: !!bool x\nfields: \x7bA: x\x7d") ⟨"", ["s"]⟩ with
    ⟨spec, hspec⟩ | ⟨error, herror, hkind, _⟩
  · cases hload.symm.trans hspec
  · cases hload.symm.trans herror
    exact absurd hkind (by decide)

end PatternSpec

end RecordPattern
