/-
A search for a path of names in a tree. Where the node has a child of the first name, the search goes on
in that child; where it has none, the children that may be entered are searched for the whole path. What
is found under a path therefore need not be what a walk along it comes to.
-/
import PulsarNode.Tree.Named

variable {α : Type}

namespace NamedTree

/-- The search for a path may find the node at this place. -/
inductive Found (goes : α → Bool) : NamedTree α → List String → List String → Prop
  | done (t : NamedTree α) : Found goes t [] []
  | into {t c : NamedTree α} {n : String} {rest place : List String} (hchild : t.child n = some c)
      (hgoes : rest = [] ∨ goes c.label = true) (h : Found goes c rest place) : Found goes t (n :: rest) (n :: place)
  | nested {t c : NamedTree α} {n k : String} {rest place : List String} (hnone : t.child n = none)
      (hchild : t.child k = some c) (hgoes : goes c.label = true) (h : Found goes c (n :: rest) place) :
      Found goes t (n :: rest) (k :: place)

namespace Found

variable {goes may : α → Bool} {t d : NamedTree α} {path place : List String}

/-- A path that can be walked finds what is at its end. -/
theorem eq_of_walk (h : Found goes t path place) (hwalk : t.walk may path = some d) : place = path := by
  induction h with
  | done t => rfl
  | into hchild hgoes h ih =>
    obtain ⟨c, hc, -, hrest⟩ := walk_cons_eq_some.1 hwalk
    rw [hchild] at hc
    cases hc
    rw [ih hrest]
  | nested hnone hchild hgoes h ih =>
    obtain ⟨c, hc, -⟩ := walk_cons_eq_some.1 hwalk
    rw [hnone] at hc
    cases hc

theorem of_walk (hwalk : t.walk goes path = some d) : Found goes t path path := by
  induction path generalizing t with
  | nil => exact .done t
  | cons n path ih =>
    obtain ⟨c, hc, hgoes, hrest⟩ := walk_cons_eq_some.1 hwalk
    exact .into hc (.inr hgoes) (ih hrest)

/-- Where a path is found, so is the path without its last name, though not always beside it. -/
theorem dropLast (h : Found goes t path place) : ∃ place', Found goes t path.dropLast place' := by
  induction h with
  | done t => exact ⟨[], .done t⟩
  | @into t c n rest place hchild hgoes h ih =>
    obtain ⟨place', hfound⟩ := ih
    cases rest with
    | nil => exact ⟨[], .done t⟩
    | cons m rest =>
      have hlabel : goes c.label = true := hgoes.resolve_left (by simp)
      exact ⟨n :: place', .into hchild (.inr hlabel) hfound⟩
  | @nested t c n k rest place hnone hchild hgoes h ih =>
    obtain ⟨place', hfound⟩ := ih
    cases rest with
    | nil => exact ⟨[], .done t⟩
    | cons m rest => exact ⟨k :: place', .nested hnone hchild hgoes hfound⟩

end Found

end NamedTree

/-! ## The search as a program -/

mutual
/-- The first place found. -/
def NamedTree.search (goes : α → Bool) : NamedTree α → List String → Option (List String)
  | _, [] => some []
  | .node _ cs, n :: rest =>
    match cs.enter goes n rest with
    | some found => found
    | none => cs.searchNested goes (n :: rest)
/-- What is found in the child of that name, if there is one. -/
def NamedForest.enter (goes : α → Bool) : NamedForest α → String → List String → Option (Option (List String))
  | .nil, _, _ => none
  | .cons m t rest, n, path =>
    if m = n then some (if path = [] ∨ goes t.label = true then (t.search goes path).map (n :: ·) else none)
    else rest.enter goes n path
def NamedForest.searchNested (goes : α → Bool) : NamedForest α → List String → Option (List String)
  | .nil, _ => none
  | .cons m t rest, path =>
    match if goes t.label = true then t.search goes path else none with
    | some place => some (m :: place)
    | none => rest.searchNested goes path
end

variable {goes : α → Bool} {good : String → Prop}

@[simp] theorem NamedTree.search_nil (goes : α → Bool) (t : NamedTree α) : t.search goes [] = some [] := by
  obtain ⟨a, cs⟩ := t
  rfl

theorem NamedForest.enter_eq (n : String) (path : List String) (cs : NamedForest α) : cs.enter goes n path =
    (cs.find n).map fun c => if path = [] ∨ goes c.label = true then (c.search goes path).map (n :: ·) else none := by
  cases cs with
  | nil => rfl
  | cons m t rest =>
    have henter : (NamedForest.cons m t rest).enter goes n path =
      if m = n then some (if path = [] ∨ goes t.label = true then (t.search goes path).map (n :: ·) else none)
      else rest.enter goes n path := rfl
    rw [henter, NamedForest.enter_eq n path rest, NamedForest.find_cons]
    by_cases h : m = n
    · rw [if_pos h, if_pos h]
      rfl
    · rw [if_neg h, if_neg h]

/-- The search at a node. -/
theorem NamedTree.search_cons (t : NamedTree α) (n : String) (path : List String) : t.search goes (n :: path) =
    match t.child n with
    | some c => if path = [] ∨ goes c.label = true then (c.search goes path).map (n :: ·) else none
    | none => t.children.searchNested goes (n :: path) := by
  obtain ⟨a, cs⟩ := t
  have hsearch : (NamedTree.node a cs).search goes (n :: path) =
      match cs.enter goes n path with
      | some found => found
      | none => cs.searchNested goes (n :: path) := rfl
  have hchild : (NamedTree.node a cs).child n = cs.find n := rfl
  rw [hsearch, NamedForest.enter_eq, hchild]
  cases cs.find n with
  | none => rfl
  | some c => rfl

/-- The nested search, from one child to the next. -/
theorem NamedForest.searchNested_cons (m : String) (t : NamedTree α) (rest : NamedForest α) (path : List String) :
    (NamedForest.cons m t rest).searchNested goes path =
      match if goes t.label = true then t.search goes path else none with
      | some place => some (m :: place)
      | none => rest.searchNested goes path := rfl

/-! ### What it finds -/

mutual
theorem NamedTree.found_of_search {path place : List String} :
    ∀ {t : NamedTree α}, t.WellNamed good → t.search goes path = some place → t.Found goes path place
  | .node a cs, h, hsearch => by
    cases path with
    | nil =>
      rw [NamedTree.search_nil] at hsearch
      cases hsearch
      exact .done _
    | cons n rest =>
      have hchild : (NamedTree.node a cs).child n = cs.find n := rfl
      have hchildren : (NamedTree.node a cs).children = cs := rfl
      rw [NamedTree.search_cons, hchild, hchildren] at hsearch
      cases hfind : cs.find n with
      | none =>
        rw [hfind] at hsearch
        obtain ⟨k, c, place', rfl, hk, hgoes, hfound⟩ := NamedForest.found_of_searchNested h.1 h.2 hsearch
        exact .nested (hchild.trans hfind) hk hgoes hfound
      | some c =>
        rw [hfind] at hsearch
        dsimp only at hsearch
        by_cases hgoes : rest = [] ∨ goes c.label = true
        · rw [if_pos hgoes, Option.map_eq_some_iff] at hsearch
          obtain ⟨place', hrest, rfl⟩ := hsearch
          exact .into (hchild.trans hfind) hgoes (NamedForest.found_of_find h.2 hfind hrest)
        · rw [if_neg hgoes] at hsearch
          cases hsearch
theorem NamedForest.found_of_find {n : String} {c : NamedTree α} {path place : List String} :
    ∀ {cs : NamedForest α}, cs.WellNamed good → cs.find n = some c → c.search goes path = some place →
      c.Found goes path place
  | .nil, _, hfind, _ => by cases hfind
  | .cons m t rest, h, hfind, hsearch => by
    rw [NamedForest.find_cons] at hfind
    by_cases hm : m = n
    · rw [if_pos hm] at hfind
      have heq : t = c := Option.some.inj hfind
      rw [← heq] at hsearch ⊢
      exact NamedTree.found_of_search h.2.1 hsearch
    · rw [if_neg hm] at hfind
      exact NamedForest.found_of_find h.2.2 hfind hsearch
theorem NamedForest.found_of_searchNested {path place : List String} :
    ∀ {cs : NamedForest α}, cs.names.Nodup → cs.WellNamed good → cs.searchNested goes path = some place →
      ∃ k c place', place = k :: place' ∧ cs.find k = some c ∧ goes c.label = true ∧ c.Found goes path place'
  | .nil, _, _, hsearch => by cases hsearch
  | .cons m t rest, hnodup, h, hsearch => by
    obtain ⟨hfresh, hnodup⟩ := List.nodup_cons.1 hnodup
    have hrest (hnested : rest.searchNested goes path = some place) : ∃ k c place', place = k :: place' ∧
        (NamedForest.cons m t rest).find k = some c ∧ goes c.label = true ∧ c.Found goes path place' := by
      obtain ⟨k, c, place', rfl, hk, hc⟩ := NamedForest.found_of_searchNested hnodup h.2.2 hnested
      have hne : m ≠ k := fun heq => hfresh (heq ▸ NamedForest.mem_names_of_find hk)
      exact ⟨k, c, place', rfl, by rw [NamedForest.find_cons, if_neg hne, hk], hc⟩
    rw [NamedForest.searchNested_cons] at hsearch
    by_cases hgoes : goes t.label = true
    · rw [if_pos hgoes] at hsearch
      cases ht : t.search goes path with
      | none =>
        rw [ht] at hsearch
        exact hrest hsearch
      | some place' =>
        rw [ht] at hsearch
        cases hsearch
        exact ⟨m, t, place', rfl, by simp [NamedForest.find_cons], hgoes, NamedTree.found_of_search h.2.1 ht⟩
    · rw [if_neg hgoes] at hsearch
      exact hrest hsearch
end

/-- A child that the path can be found in is found by the nested search, if no other one is. -/
theorem NamedForest.searchNested_isSome {k : String} {c : NamedTree α} {path : List String} (hgoes : goes c.label = true)
    (hc : (c.search goes path).isSome = true) :
    ∀ {cs : NamedForest α}, cs.find k = some c → (cs.searchNested goes path).isSome = true
  | .nil, hfind => by cases hfind
  | .cons m t rest, hfind => by
    rw [NamedForest.searchNested_cons]
    cases ht : (if goes t.label = true then t.search goes path else none) with
    | some place => rfl
    | none =>
      rw [NamedForest.find_cons] at hfind
      by_cases hm : m = k
      · rw [if_pos hm] at hfind
        cases hfind
        rw [if_pos hgoes] at ht
        rw [ht] at hc
        cases hc
      · rw [if_neg hm] at hfind
        exact NamedForest.searchNested_isSome hgoes hc hfind

/-- Whatever may be found, something is. -/
theorem NamedTree.Found.search_isSome {t : NamedTree α} {path place : List String} (h : t.Found goes path place) :
    (t.search goes path).isSome = true := by
  induction h with
  | done t => simp
  | into hchild hgoes h ih =>
    rw [NamedTree.search_cons, hchild]
    dsimp only
    rw [if_pos hgoes, Option.isSome_map]
    exact ih
  | nested hnone hchild hgoes h ih =>
    rw [NamedTree.search_cons, hnone]
    exact NamedForest.searchNested_isSome hgoes ih hchild

/-! ### Mapped labels -/

variable {β : Type} {g : α → β} {goes : β → Bool}

mutual
/-- What is found is up to the mapped labels. -/
theorem NamedTree.search_map (path : List String) :
    ∀ t : NamedTree α, (t.map g).search goes path = t.search (fun a => goes (g a)) path
  | .node a cs => by
    cases path with
    | nil => rw [NamedTree.search_nil, NamedTree.search_nil]
    | cons n rest =>
      have hchildren : ((NamedTree.node a cs).map g).children = cs.map g := rfl
      have hchild : (NamedTree.node a cs).child n = cs.find n := rfl
      rw [NamedTree.search_cons, NamedTree.search_cons, NamedTree.child_map, hchild, hchildren,
        NamedForest.searchNested_map]
      cases hfind : cs.find n with
      | none => rfl
      | some c =>
        rw [Option.map_some]
        dsimp only
        rw [NamedTree.label_map, NamedForest.search_map_of_find rest hfind]
theorem NamedForest.search_map_of_find {n : String} {c : NamedTree α} (path : List String) :
    ∀ {cs : NamedForest α}, cs.find n = some c → (c.map g).search goes path = c.search (fun a => goes (g a)) path
  | .nil, hfind => by cases hfind
  | .cons m t rest, hfind => by
    rw [NamedForest.find_cons] at hfind
    by_cases hm : m = n
    · rw [if_pos hm] at hfind
      have heq : t = c := Option.some.inj hfind
      rw [← heq]
      exact NamedTree.search_map path t
    · rw [if_neg hm] at hfind
      exact NamedForest.search_map_of_find path hfind
theorem NamedForest.searchNested_map (path : List String) :
    ∀ cs : NamedForest α, (cs.map g).searchNested goes path = cs.searchNested (fun a => goes (g a)) path
  | .nil => rfl
  | .cons m t rest => by
    rw [NamedForest.map_cons, NamedForest.searchNested_cons, NamedForest.searchNested_cons, NamedTree.label_map,
      NamedTree.search_map path t, NamedForest.searchNested_map path rest]
end
