import RecordPattern.Proofs.Regex.Enclosure.Groups
import RecordPattern.Regex.Parser

namespace RecordPattern.Regex

open Node

namespace Item

def raise : Item → Item
  | .node part => .node part.raise
  | .contents parts => .contents (parts.map Node.raise)

def Positive (item : Item) : Prop :=
  ∀ node ∈ item.nodes, node.Positive

@[simp] theorem nodes_raise (item : Item) : item.raise.nodes = item.nodes.map Node.raise := by
  cases item <;> rfl

theorem toNode_raise (item : Item) : item.raise.toNode = item.toNode.raise := by
  rw [toNode, nodes_raise, ofList_raise, toNode]

theorem toNode_positive {item : Item} (h : item.Positive) : item.toNode.Positive :=
  ofList_positive h

theorem node_positive {node : Node} (h : node.Positive) : (Item.node node).Positive :=
  List.forall_mem_singleton.mpr h

end Item

namespace Opening

def raise : Opening → Opening
  | .capture group => .capture (group + 1)
  | .conditional group => .conditional (group + 1)
  | opening => opening

def Positive : Opening → Prop
  | .capture group | .conditional group => 1 ≤ group
  | _ => True

end Opening

namespace Frame

-- An open group holds the same parts as another, with their groups numbered one higher.
structure Mirrors (inner outer : Frame) : Prop where
  flags : outer.flags = inner.flags
  branches : outer.branches = inner.branches.map (List.map Node.raise)
  items : outer.items = inner.items.map Item.raise
  branches_positive : ∀ branch ∈ inner.branches, ∀ node ∈ branch, node.Positive
  items_positive : ∀ item ∈ inner.items, item.Positive

namespace Mirrors

variable {inner outer : Frame}

theorem opened (opening opening' : Opening) (start start' : Nat) (flags : Flags) :
    (opened opening start flags).Mirrors (opened opening' start' flags) :=
  ⟨rfl, rfl, rfl, by simp [Frame.opened], by simp [Frame.opened]⟩

theorem push (h : inner.Mirrors outer) {item : Item} (hitem : item.Positive) :
    (inner.push item).Mirrors (outer.push item.raise) where
  flags := h.flags
  branches := h.branches
  items := by simp [Frame.push, h.items]
  branches_positive := h.branches_positive
  items_positive := List.forall_mem_cons.mpr ⟨hitem, h.items_positive⟩

-- The parts of the branch that is being read.
theorem latest_eq (h : inner.Mirrors outer) : outer.items.reverse.flatMap Item.nodes =
    (inner.items.reverse.flatMap Item.nodes).map Node.raise := by
  simp [h.items, ← List.map_reverse, List.flatMap_map, List.map_flatMap]

theorem latest_positive (h : inner.Mirrors outer) :
    ∀ node ∈ inner.items.reverse.flatMap Item.nodes, node.Positive := by
  intro node hnode
  obtain ⟨item, hitem, hnode⟩ := List.mem_flatMap.mp hnode
  exact h.items_positive item (List.mem_reverse.mp hitem) node hnode

theorem finishBranch (h : inner.Mirrors outer) :
    inner.finishBranch.Mirrors outer.finishBranch where
  flags := h.flags
  branches := by simp [Frame.finishBranch, h.latest_eq, h.branches]
  items := rfl
  branches_positive := List.forall_mem_cons.mpr ⟨h.latest_positive, h.branches_positive⟩
  items_positive := by simp [Frame.finishBranch]

theorem allBranches_eq (h : inner.Mirrors outer) :
    outer.allBranches = inner.allBranches.map (List.map Node.raise) := by
  rw [allBranches, h.finishBranch.branches, ← List.map_reverse, allBranches]

theorem allBranches_positive (h : inner.Mirrors outer) :
    ∀ branch ∈ inner.allBranches, ∀ node ∈ branch, node.Positive := by
  intro branch hbranch
  exact h.finishBranch.branches_positive branch (List.mem_reverse.mp hbranch)

theorem nodes_eq (h : inner.Mirrors outer) : outer.nodes = inner.nodes.map Node.raise := by
  rw [nodes, h.flags, h.allBranches_eq, Choice.ofBranches_raise, nodes]

theorem nodes_positive (h : inner.Mirrors outer) : ∀ node ∈ inner.nodes, node.Positive :=
  Choice.ofBranches_positive _ h.allBranches_positive

theorem body_eq (h : inner.Mirrors outer) : outer.body = inner.body.raise := by
  rw [body, h.nodes_eq, ofList_raise, body]

theorem body_positive (h : inner.Mirrors outer) : inner.body.Positive :=
  ofList_positive h.nodes_positive

end Mirrors

end Frame

namespace Reading

variable {inner outer : Frame}

-- A group inside adds the same part to what is around it.
theorem closedItem_raise (h : inner.Mirrors outer) (hopening : outer.opening = inner.opening.raise) :
    closedItem outer = (closedItem inner).raise := by
  unfold closedItem
  rw [hopening]
  cases inner.opening with
  | whole => simp only [Opening.raise, h.nodes_eq, Item.raise]
  | contents => simp only [Opening.raise, h.nodes_eq, Item.raise]
  | conditional group =>
      simp only [Opening.raise, h.allBranches_eq]
      rcases inner.allBranches with _ | ⟨present, _ | ⟨absent, rest⟩⟩
      · rfl
      · simp only [List.map_cons, List.map_nil, Item.raise, Node.raise, ofList_raise]
      · simp only [List.map_cons, Item.raise, Node.raise, ofList_raise]
  | capture group => simp only [Opening.raise, h.body_eq, Item.raise, Node.raise]
  | scope => simp only [Opening.raise, h.body_eq, Item.raise, Node.raise]
  | atomic => simp only [Opening.raise, h.body_eq, Item.raise, Node.raise]
  | ahead negated => simp only [Opening.raise, h.body_eq, Item.raise, Node.raise]
  | behind negated outermost =>
      simp only [Opening.raise, h.body_eq, Item.raise, Node.raise, width_raise]

theorem closedItem_positive (h : inner.Mirrors outer) (hopening : inner.opening.Positive) :
    (closedItem inner).Positive := by
  unfold closedItem
  cases hcase : inner.opening with
  | whole => exact h.nodes_positive
  | contents => exact h.nodes_positive
  | conditional group =>
      rw [hcase] at hopening
      have hbranches := h.allBranches_positive
      revert hbranches
      rcases inner.allBranches with _ | ⟨present, _ | ⟨absent, rest⟩⟩ <;> intro hbranches
      · exact List.forall_mem_nil _
      · have hpresent := hbranches present (by simp)
        exact Item.node_positive ⟨hopening, ofList_positive hpresent, trivial⟩
      · have hpresent := hbranches present (by simp)
        have habsent := hbranches absent (by simp)
        exact Item.node_positive ⟨hopening, ofList_positive hpresent, ofList_positive habsent⟩
  | capture group =>
      rw [hcase] at hopening
      exact Item.node_positive ⟨hopening, h.body_positive⟩
  | scope => exact Item.node_positive h.body_positive
  | atomic => exact Item.node_positive h.body_positive
  | ahead negated => exact Item.node_positive h.body_positive
  | behind negated outermost => exact Item.node_positive h.body_positive

theorem closedGroups_inside {name : String} {groups around : Groups}
    (hgroups : groups.Inside name around) (h : inner.Mirrors outer)
    (hopening : outer.opening = inner.opening.raise) (hpositive : inner.opening.Positive) :
    (closedGroups groups inner).Inside name (closedGroups around outer) := by
  unfold closedGroups
  rw [hopening]
  cases hcase : inner.opening with
  | capture group =>
      rw [hcase] at hpositive
      simp only [Opening.raise, h.body_eq, width_raise]
      exact hgroups.closed hpositive _
  | behind negated outermost =>
      cases outermost with
      | true => exact hgroups.lookingBehind none
      | false => exact hgroups
  | whole => exact hgroups
  | contents => exact hgroups
  | scope => exact hgroups
  | atomic => exact hgroups
  | ahead negated => exact hgroups
  | conditional group => exact hgroups

-- What stands around a pattern: the name of a group, what closes it, and the groups that are open,
-- of which the first takes the pattern itself.
structure Enclosure where
  name : String
  closing : Closing
  opening : Opening
  outer : List Frame
  outer_ne_nil : outer ≠ []

-- The groups that a pattern has open, with their numbers one higher, before those around it.
inductive Stacked (enclosure : Enclosure) : Frame → List Frame → Frame → List Frame → Prop
  | bottom {inner outer : Frame} (opening : outer.opening = enclosure.opening)
      (mirrors : inner.Mirrors outer) : Stacked enclosure inner [] outer enclosure.outer
  | above {inner outer below around : Frame} {rest further : List Frame}
      (opening : outer.opening = inner.opening.raise) (positive : inner.opening.Positive)
      (mirrors : inner.Mirrors outer) (stacked : Stacked enclosure below rest around further) :
      Stacked enclosure inner (below :: rest) outer (around :: further)

namespace Stacked

variable {enclosure : Enclosure} {rest further : List Frame} {inner outer : Frame}

theorem mirrors (h : Stacked enclosure inner rest outer further) : inner.Mirrors outer := by
  cases h with
  | bottom _ mirrors => exact mirrors
  | above _ _ mirrors _ => exact mirrors

-- What is inside of the innermost group may change.
theorem replace (h : Stacked enclosure inner rest outer further) {next follow : Frame}
    (hnext : next.opening = inner.opening) (hfollow : follow.opening = outer.opening)
    (hmirrors : next.Mirrors follow) : Stacked enclosure next rest follow further := by
  cases h with
  | bottom opening _ => exact .bottom (hfollow.trans opening) hmirrors
  | above opening positive _ stacked =>
      exact .above (by rw [hnext, hfollow, opening]) (hnext ▸ positive) hmirrors stacked

theorem further_ne_nil (h : Stacked enclosure inner rest outer further) : further ≠ [] := by
  cases h with
  | bottom _ _ => exact enclosure.outer_ne_nil
  | above _ _ _ _ => exact List.cons_ne_nil _ _

end Stacked

end Reading

end RecordPattern.Regex
