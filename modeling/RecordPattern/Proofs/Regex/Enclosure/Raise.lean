import RecordPattern.Regex.Choice

namespace RecordPattern.Regex

namespace Node

-- The pattern with every group numbered one higher, as it is inside one more group.
def raise : Node → Node
  | .empty => .empty
  | .unit test => .unit test
  | .anchor place => .anchor place
  | .reference group fold width => .reference (group + 1) fold width
  | .capture group body => .capture (group + 1) body.raise
  | .scope body => .scope body.raise
  | .atomic body => .atomic body.raise
  | .ahead negated body => .ahead negated body.raise
  | .behind negated width body => .behind negated width body.raise
  | .conditional group present absent => .conditional (group + 1) present.raise absent.raise
  | .repetition greed least greatest body => .repetition greed least greatest body.raise
  | .seq first rest => .seq first.raise rest.raise
  | .choice first rest => .choice first.raise rest.raise

-- Groups are numbered from one on.
def Positive : Node → Prop
  | .empty | .unit _ | .anchor _ => True
  | .reference group _ _ => 1 ≤ group
  | .capture group body => 1 ≤ group ∧ body.Positive
  | .scope body => body.Positive
  | .atomic body => body.Positive
  | .ahead _ body => body.Positive
  | .behind _ _ body => body.Positive
  | .conditional group present absent => 1 ≤ group ∧ present.Positive ∧ absent.Positive
  | .repetition _ _ _ body => body.Positive
  | .seq first rest => first.Positive ∧ rest.Positive
  | .choice first rest => first.Positive ∧ rest.Positive

theorem raise_injective {first second : Node} (h : first.raise = second.raise) : first = second := by
  induction first generalizing second <;> cases second <;> simp_all [raise]
  all_goals grind

@[simp] theorem width_raise (node : Node) : node.raise.width = node.width := by
  induction node <;> simp_all [raise, width]

@[simp] theorem isPlain_raise (node : Node) : node.raise.isPlain = node.isPlain := by
  cases node <;> rfl

theorem ofList_raise (nodes : List Node) : ofList (nodes.map raise) = (ofList nodes).raise := by
  induction nodes with
  | nil => rfl
  | cons node rest ih =>
      cases rest with
      | nil => rfl
      | cons next rest => exact congrArg (Node.seq node.raise) ih

theorem choiceOf_raise (nodes : List Node) : choiceOf (nodes.map raise) = (choiceOf nodes).raise := by
  induction nodes with
  | nil => rfl
  | cons node rest ih =>
      cases rest with
      | nil => rfl
      | cons next rest => exact congrArg (Node.choice node.raise) ih

theorem ofList_positive {nodes : List Node} (h : ∀ node ∈ nodes, node.Positive) :
    (ofList nodes).Positive := by
  induction nodes with
  | nil => trivial
  | cons node rest ih =>
      obtain ⟨hnode, hrest⟩ := List.forall_mem_cons.mp h
      cases rest with
      | nil => exact hnode
      | cons next rest => exact ⟨hnode, ih hrest⟩

theorem choiceOf_positive {nodes : List Node} (h : ∀ node ∈ nodes, node.Positive) :
    (choiceOf nodes).Positive := by
  induction nodes with
  | nil => trivial
  | cons node rest ih =>
      obtain ⟨hnode, hrest⟩ := List.forall_mem_cons.mp h
      cases rest with
      | nil => exact hnode
      | cons next rest => exact ⟨hnode, ih hrest⟩

end Node

namespace Choice

open Node

-- What all branches begin with is found whatever the numbers of their groups are.
theorem splitCommon_raise (first : List Node) (others : List (List Node)) :
    splitCommon (first.map raise) (others.map (List.map raise)) =
      ((splitCommon first others).1.map raise, (splitCommon first others).2.map (List.map raise)) := by
  induction first generalizing others with
  | nil => rfl
  | cons node first ih =>
      have hhead : ∀ branch : List Node,
          ((branch.map raise).head? = some node.raise) = (branch.head? = some node) := by
        intro branch
        cases branch with
        | nil => simp
        | cons head _ =>
            simp only [List.map_cons, List.head?_cons, Option.some.injEq, eq_iff_iff]
            exact ⟨raise_injective, fun h => h ▸ rfl⟩
      have hdrop : (others.map (List.map raise)).map (·.drop 1) =
          (others.map (·.drop 1)).map (List.map raise) := by
        simp [Function.comp_def]
      simp only [List.map_cons, splitCommon, isPlain_raise, List.all_map, Function.comp_def, hhead]
      split
      · rw [hdrop, ih]
        rfl
      · rfl

theorem splitCommon_positive {first : List Node} {others : List (List Node)}
    (hfirst : ∀ node ∈ first, node.Positive)
    (hothers : ∀ branch ∈ others, ∀ node ∈ branch, node.Positive) :
    (∀ node ∈ (splitCommon first others).1, node.Positive) ∧
      ∀ branch ∈ (splitCommon first others).2, ∀ node ∈ branch, node.Positive := by
  induction first generalizing others with
  | nil => exact ⟨by simp [splitCommon], by simpa [splitCommon] using hothers⟩
  | cons node first ih =>
      obtain ⟨hnode, hrest⟩ := List.forall_mem_cons.mp hfirst
      simp only [splitCommon]
      split
      · have hdropped : ∀ branch ∈ others.map (·.drop 1), ∀ node ∈ branch, node.Positive := by
          intro branch hb node hn
          obtain ⟨whole, hw, rfl⟩ := List.mem_map.mp hb
          exact hothers whole hw node (List.mem_of_mem_drop hn)
        obtain ⟨hcommon, hbranches⟩ := ih hrest hdropped
        exact ⟨List.forall_mem_cons.mpr ⟨hnode, hcommon⟩, hbranches⟩
      · exact ⟨by simp, List.forall_mem_cons.mpr ⟨hfirst, hothers⟩⟩

-- Only a branch of one character counts as a class.
theorem classItems?_cons_cons (node next : Node) (rest : List Node) :
    classItems? (node :: next :: rest) = none := by
  unfold classItems?
  split <;> simp_all

theorem classItems?_raise (branch : List Node) :
    classItems? (branch.map raise) = classItems? branch := by
  rcases branch with _ | ⟨node, _ | ⟨next, rest⟩⟩
  · rfl
  · cases node <;> rfl
  · simp only [List.map_cons, classItems?_cons_cons]

theorem ofBranches_raise (flags : Flags) (branches : List (List Node)) :
    ofBranches flags (branches.map (List.map raise)) = (ofBranches flags branches).map raise := by
  rcases branches with _ | ⟨first, _ | ⟨second, others⟩⟩
  · rfl
  · rfl
  · have hclass : ((splitCommon first (second :: others)).2.map (List.map raise)).mapM classItems? =
        (splitCommon first (second :: others)).2.mapM classItems? := by
      rw [List.mapM_map]
      exact congrArg (List.mapM · _) (funext classItems?_raise)
    have hlists : (splitCommon first (second :: others)).2.map (ofList ∘ List.map raise) =
        ((splitCommon first (second :: others)).2.map ofList).map raise := by
      rw [List.map_map]
      exact List.map_congr_left fun branch _ => ofList_raise branch
    have hsplit := splitCommon_raise first (second :: others)
    rw [List.map_cons] at hsplit
    simp only [List.map_cons, ofBranches, hsplit, hclass]
    split
    · simp [raise]
    · rw [List.map_map, hlists, choiceOf_raise, List.map_append, List.map_singleton]

theorem ofBranches_positive (flags : Flags) {branches : List (List Node)}
    (h : ∀ branch ∈ branches, ∀ node ∈ branch, node.Positive) :
    ∀ node ∈ ofBranches flags branches, node.Positive := by
  rcases branches with _ | ⟨first, _ | ⟨second, others⟩⟩
  · simp [ofBranches]
  · exact h first (by simp)
  · obtain ⟨hfirst, hothers⟩ := List.forall_mem_cons.mp h
    obtain ⟨hcommon, hbranches⟩ := splitCommon_positive hfirst hothers
    simp only [ofBranches]
    split
    · rw [List.forall_mem_append, List.forall_mem_singleton]
      exact ⟨hcommon, trivial⟩
    · simp only [List.forall_mem_append, List.forall_mem_singleton]
      refine ⟨hcommon, choiceOf_positive fun node hn => ?_⟩
      obtain ⟨branch, hb, rfl⟩ := List.mem_map.mp hn
      exact ofList_positive (hbranches branch hb)

end Choice

end RecordPattern.Regex
