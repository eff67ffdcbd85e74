import Mathlib.Data.List.Basic
import Mathlib.Data.List.Nodup

/-!
Owns trees whose nodes hold an information and any number of branches, the nodes
below a node, and walks over a list that write each item once:

- of the items with one key, the first is selected (`firstOccurrences`), and each key
  is selected once (`count_firstOccurrences`);
- a loop that prints every item whose key has not been written yet prints those
  (`foldlM_writeOnce`).

Does not own: any particular information, and the order in which a walk visits the
nodes of a tree.
-/

namespace TreeWalk

/-! ### Trees -/

inductive TreeNode (Info : Type) where
  | node (info : Info) (branches : List (TreeNode Info))

namespace TreeNode

variable {Info : Type}

def info : TreeNode Info → Info
  | .node info _ => info

def branches : TreeNode Info → List (TreeNode Info)
  | .node _ branches => branches

mutual

/-- The nodes below a node, each after those below it. -/
def descendants : TreeNode Info → List (TreeNode Info)
  | .node _ branches => descendantsOfAll branches

/-- Some nodes, each after those below it. -/
def descendantsOfAll : List (TreeNode Info) → List (TreeNode Info)
  | [] => []
  | branch :: rest => descendants branch ++ branch :: descendantsOfAll rest

end

theorem mem_descendantsOfAll_iff {branches : List (TreeNode Info)} {node : TreeNode Info} :
    node ∈ descendantsOfAll branches ↔
      ∃ branch ∈ branches, node = branch ∨ node ∈ branch.descendants := by
  induction branches with
  | nil => simp [descendantsOfAll]
  | cons first rest inductionHypothesis =>
      rw [descendantsOfAll, List.mem_append, List.mem_cons, inductionHypothesis]
      simp only [List.mem_cons, exists_eq_or_imp]
      exact or_left_comm.trans or_assoc.symm

theorem mem_descendants_iff {tree node : TreeNode Info} :
    node ∈ tree.descendants ↔
      ∃ branch ∈ tree.branches, node = branch ∨ node ∈ branch.descendants := by
  cases tree with
  | node info branches => exact mem_descendantsOfAll_iff

/-- A walk that yields every node below the root, and no other. -/
def YieldsDescendants (allNodes : TreeNode Info → List (TreeNode Info)) : Prop :=
  ∀ tree node, node ∈ allNodes tree ↔ node ∈ tree.descendants

end TreeNode

/-! ### First occurrences -/

section FirstOccurrences

variable {Item Key : Type} [DecidableEq Key] (key : Item → Option Key)

/-- The first item of each key that is not among those seen. -/
def firstOccurrences (seen : List Key) : List Item → List Item
  | [] => []
  | item :: rest =>
      match key item with
      | none => firstOccurrences seen rest
      | some name =>
          if name ∈ seen then firstOccurrences seen rest
          else item :: firstOccurrences (name :: seen) rest

variable {key}

theorem mem_of_mem_firstOccurrences {seen : List Key} {items : List Item} {item : Item}
    (member : item ∈ firstOccurrences key seen items) :
    item ∈ items ∧ ∃ name, key item = some name ∧ name ∉ seen := by
  induction items generalizing seen with
  | nil => cases member
  | cons first rest inductionHypothesis =>
      unfold firstOccurrences at member
      cases named : key first with
      | none =>
          rw [named] at member
          exact (inductionHypothesis member).imp_left (List.mem_cons_of_mem _)
      | some name =>
          rw [named] at member
          dsimp only at member
          split at member
          · exact (inductionHypothesis member).imp_left (List.mem_cons_of_mem _)
          · next new =>
              rcases List.mem_cons.mp member with rfl | later
              · exact ⟨List.mem_cons_self, name, named, new⟩
              · obtain ⟨there, other, otherNamed, notSeen⟩ := inductionHypothesis later
                exact ⟨List.mem_cons_of_mem _ there, other, otherNamed,
                  fun seen => notSeen (List.mem_cons_of_mem _ seen)⟩

theorem exists_mem_firstOccurrences {seen : List Key} {items : List Item} {item : Item}
    {name : Key} (member : item ∈ items) (named : key item = some name) (new : name ∉ seen) :
    ∃ kept ∈ firstOccurrences key seen items, key kept = some name := by
  induction items generalizing seen with
  | nil => cases member
  | cons first rest inductionHypothesis =>
      unfold firstOccurrences
      rcases List.mem_cons.mp member with rfl | later
      · rw [named]
        dsimp only
        rw [if_neg new]
        exact ⟨item, List.mem_cons_self, named⟩
      · cases firstNamed : key first with
        | none => exact inductionHypothesis later new
        | some other =>
            dsimp only
            split
            · exact inductionHypothesis later new
            · by_cases same : name = other
              · subst same
                exact ⟨first, List.mem_cons_self, firstNamed⟩
              · have newLater : name ∉ other :: seen := by
                  rw [List.mem_cons, not_or]
                  exact ⟨same, new⟩
                obtain ⟨kept, there, keptNamed⟩ := inductionHypothesis later newLater
                exact ⟨kept, List.mem_cons_of_mem _ there, keptNamed⟩

theorem nodup_firstOccurrences (seen : List Key) (items : List Item) :
    ((firstOccurrences key seen items).filterMap key).Nodup := by
  induction items generalizing seen with
  | nil => exact List.nodup_nil
  | cons first rest inductionHypothesis =>
      unfold firstOccurrences
      cases named : key first with
      | none => exact inductionHypothesis seen
      | some name =>
          dsimp only
          split
          · exact inductionHypothesis seen
          · rw [List.filterMap_cons, named]
            apply List.nodup_cons.mpr
            refine ⟨fun member => ?_, inductionHypothesis (name :: seen)⟩
            obtain ⟨other, there, otherNamed⟩ := List.mem_filterMap.mp member
            obtain ⟨_, again, otherAgain, notSeen⟩ := mem_of_mem_firstOccurrences there
            rw [otherNamed, Option.some.injEq] at otherAgain
            rw [← otherAgain] at notSeen
            exact notSeen List.mem_cons_self

/-- **Each key is selected once**: that of an item whose key has not been seen. -/
theorem count_firstOccurrences {seen : List Key} {items : List Item} {name : Key} :
    ((firstOccurrences key seen items).filterMap key).count name = 1 ↔
      name ∉ seen ∧ ∃ item ∈ items, key item = some name := by
  have nodup : ((firstOccurrences key seen items).filterMap key).Nodup :=
    nodup_firstOccurrences seen items
  constructor
  · intro once
    have counted : name ∈ (firstOccurrences key seen items).filterMap key :=
      List.count_pos_iff.mp (by omega)
    obtain ⟨item, member, named⟩ := List.mem_filterMap.mp counted
    obtain ⟨there, other, otherNamed, notSeen⟩ := mem_of_mem_firstOccurrences member
    rw [named, Option.some.injEq] at otherNamed
    exact ⟨otherNamed ▸ notSeen, item, there, named⟩
  · rintro ⟨new, item, member, named⟩
    apply List.count_eq_one_of_mem nodup
    exact List.mem_filterMap.mpr (exists_mem_firstOccurrences member named new)

/-- The same with one more item at the end, whose key is that of no other. -/
theorem count_firstOccurrences_append {items : List Item} {last : Item} {name : Key}
    (new : ∀ item ∈ items, ∀ other, key item = some other → key last ≠ some other) :
    ((firstOccurrences key [] items ++ [last]).filterMap key).count name = 1 ↔
      (∃ item ∈ items, key item = some name) ∨ key last = some name := by
  rw [List.filterMap_append, List.count_append]
  by_cases lastNamed : key last = some name
  · have notWritten : ((firstOccurrences key [] items).filterMap key).count name = 0 := by
      apply List.count_eq_zero.mpr
      intro member
      obtain ⟨item, kept, named⟩ := List.mem_filterMap.mp member
      exact new item (mem_of_mem_firstOccurrences kept).1 name named lastNamed
    have counted : ([last].filterMap key).count name = 1 := by
      simp [lastNamed]
    rw [notWritten, counted]
    exact ⟨fun _ => .inr lastNamed, fun _ => rfl⟩
  · have notCounted : ([last].filterMap key).count name = 0 := by
      apply List.count_eq_zero.mpr
      intro member
      obtain ⟨item, isLast, named⟩ := List.mem_filterMap.mp member
      rw [List.mem_singleton.mp isLast] at named
      exact lastNamed named
    rw [notCounted, Nat.add_zero, count_firstOccurrences]
    constructor
    · rintro ⟨_, named⟩
      exact .inl named
    · rintro (named | named)
      · exact ⟨List.not_mem_nil, named⟩
      · exact absurd named lastNamed

/-! ### Loops that write once -/

/-- The loop over the items: what has been written, and the text so far. -/
def writeOnce {Failure : Type} (key : Item → Option Key) (print : Item → Except Failure String)
    (state : List Key × String) (item : Item) : Except Failure (List Key × String) :=
  match key item with
  | none => .ok state
  | some name =>
      if name ∈ state.1 then .ok state
      else (print item).map fun text => (name :: state.1, state.2 ++ text)

/-- **What the loop prints**, if everything it prints can be printed. -/
theorem foldlM_writeOnce {Failure : Type} {print : Item → Except Failure String}
    {text : Item → String} (items : List Item) (written : List Key) (before : String)
    (prints : ∀ item ∈ firstOccurrences key written items, print item = .ok (text item)) :
    (items.foldlM (writeOnce key print) (written, before)).map Prod.snd =
      .ok (before ++ String.join ((firstOccurrences key written items).map text)) := by
  induction items generalizing written before with
  | nil =>
      rw [firstOccurrences, List.map_nil, String.join_nil, String.append_empty]
      rfl
  | cons first rest inductionHypothesis =>
      rw [List.foldlM_cons]
      unfold firstOccurrences at prints ⊢
      cases named : key first with
      | none =>
          have stays : writeOnce key print (written, before) first = .ok (written, before) := by
            rw [writeOnce, named]
          rw [named] at prints
          rw [stays]
          exact inductionHypothesis written before prints
      | some name =>
          rw [named] at prints
          dsimp only at prints ⊢
          by_cases seen : name ∈ written
          · have stays : writeOnce key print (written, before) first = .ok (written, before) := by
              rw [writeOnce, named]
              exact if_pos seen
            rw [if_pos seen] at prints ⊢
            rw [stays]
            exact inductionHypothesis written before prints
          · rw [if_neg seen] at prints ⊢
            have writes : writeOnce key print (written, before) first =
                .ok (name :: written, before ++ text first) := by
              rw [writeOnce, named]
              dsimp only
              rw [if_neg seen, prints first List.mem_cons_self]
              rfl
            have later := inductionHypothesis (name :: written) (before ++ text first)
              fun item member => prints item (List.mem_cons_of_mem _ member)
            rw [writes, List.map_cons, String.join_cons, ← String.append_assoc]
            exact later

end FirstOccurrences

end TreeWalk
