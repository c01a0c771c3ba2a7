/-
Trees whose children have names: a node is reached from the root by a path of names. A walk enters
only the nodes that it is told it may, so that one path can be a walk along nodes of one kind and then
along nodes of another. A relabelling at one place leaves all names, and all labels elsewhere, as they are.
-/
import Mathlib.Data.List.Nodup

/-! ## Trees -/

mutual
/-- A node with a label and named children. -/
inductive NamedTree (α : Type) where
  | node (label : α) (children : NamedForest α)
inductive NamedForest (α : Type) where
  | nil
  | cons (name : String) (tree : NamedTree α) (rest : NamedForest α)
end

variable {α : Type}

namespace NamedForest

/-- The first child of that name. -/
def find : NamedForest α → String → Option (NamedTree α)
  | nil, _ => none
  | cons m t rest, n => if m = n then some t else rest.find n

theorem find_cons (m n : String) (t : NamedTree α) (rest : NamedForest α) :
    (cons m t rest).find n = if m = n then some t else rest.find n := rfl

def names : NamedForest α → List String
  | nil => []
  | cons n _ rest => n :: rest.names

/-- Replace the first child of that name. -/
def update (f : NamedTree α → NamedTree α) (n : String) : NamedForest α → NamedForest α
  | nil => nil
  | cons m t rest => if m = n then cons m (f t) rest else cons m t (rest.update f n)

theorem find_update_self (f : NamedTree α → NamedTree α) (n : String) :
    ∀ cs : NamedForest α, (cs.update f n).find n = (cs.find n).map f
  | nil => rfl
  | cons m t rest => by
    unfold update find
    by_cases h : m = n
    · simp [h]
    · simp [h, find_update_self f n rest]

theorem find_update_of_ne (f : NamedTree α → NamedTree α) {n n' : String} (hne : n' ≠ n) :
    ∀ cs : NamedForest α, (cs.update f n).find n' = cs.find n'
  | nil => rfl
  | cons m t rest => by
    unfold update find
    by_cases h : m = n
    · simp [h, hne.symm]
    · simp [h, find_update_of_ne f hne rest]

@[simp] theorem names_update (f : NamedTree α → NamedTree α) (n : String) :
    ∀ cs : NamedForest α, (cs.update f n).names = cs.names
  | nil => rfl
  | cons m t rest => by
    unfold update
    by_cases h : m = n
    · simp [h, names]
    · simp [h, names, names_update f n rest]

theorem mem_names_of_find {n : String} {t : NamedTree α} : ∀ {cs : NamedForest α}, cs.find n = some t → n ∈ cs.names
  | nil, h => by cases h
  | cons m t' rest, h => by
    unfold find at h
    by_cases hm : m = n
    · simp [names, hm]
    · rw [if_neg hm] at h
      exact List.mem_cons_of_mem _ (mem_names_of_find h)

end NamedForest

namespace NamedTree

def label : NamedTree α → α
  | node a _ => a

def children : NamedTree α → NamedForest α
  | node _ cs => cs

def child (t : NamedTree α) (n : String) : Option (NamedTree α) := t.children.find n

/-! ## Walks -/

/-- The node at the end of the path, if every node entered on the way is one that may be. -/
def walk (may : α → Bool) : NamedTree α → List String → Option (NamedTree α)
  | t, [] => some t
  | t, n :: p => ((t.child n).filter fun c => may c.label).bind fun c => c.walk may p

variable {may may' : α → Bool} {t c c' d : NamedTree α} {n : String} {p q : List String}

@[simp] theorem walk_nil (may : α → Bool) (t : NamedTree α) : t.walk may [] = some t := rfl

theorem walk_cons (may : α → Bool) (t : NamedTree α) (n : String) (p : List String) :
    t.walk may (n :: p) = ((t.child n).filter fun c => may c.label).bind fun c => c.walk may p := rfl

theorem walk_cons_eq_some : t.walk may (n :: p) = some d ↔
    ∃ c, t.child n = some c ∧ may c.label = true ∧ c.walk may p = some d := by
  rw [walk_cons]
  simp [Option.bind_eq_some_iff, Option.filter_eq_some_iff, and_assoc]

theorem walk_append (may : α → Bool) (t : NamedTree α) (p q : List String) :
    t.walk may (p ++ q) = (t.walk may p).bind fun c => c.walk may q := by
  induction p generalizing t with
  | nil => rfl
  | cons n p ih =>
    rw [List.cons_append, walk_cons, walk_cons, Option.bind_assoc]
    exact congrArg _ (funext ih)

theorem walk_mono (hmay : ∀ a, may a = true → may' a = true) (h : t.walk may p = some d) : t.walk may' p = some d := by
  induction p generalizing t with
  | nil => exact h
  | cons n p ih =>
    obtain ⟨c, hc, hlabel, hwalk⟩ := walk_cons_eq_some.1 h
    exact walk_cons_eq_some.2 ⟨c, hc, hmay _ hlabel, ih hwalk⟩

/-- A path is in one way a walk along nodes of one kind followed by one along nodes of another. -/
theorem walk_split_unique (hkinds : ∀ a, may a = true → may' a = false) {p p' q q' : List String} {n n' : String}
    {t c c' d d' : NamedTree α} (hp : t.walk may p = some c) (hq : c.walk may' (n :: q) = some d)
    (hp' : t.walk may p' = some c') (hq' : c'.walk may' (n' :: q') = some d') (heq : p ++ n :: q = p' ++ n' :: q') :
    p = p' := by
  -- where one path goes on along the first kind and the other does not, the child has both kinds
  have hclash {t x y : NamedTree α} {m : String} {r r' : List String} (h : t.walk may (m :: r) = some x)
      (h' : t.walk may' (m :: r') = some y) : False := by
    obtain ⟨e, he, hmay, -⟩ := walk_cons_eq_some.1 h
    obtain ⟨e', he', hmay', -⟩ := walk_cons_eq_some.1 h'
    obtain rfl : e = e' := Option.some.inj (he.symm.trans he')
    rw [hkinds _ hmay] at hmay'
    cases hmay'
  induction p generalizing t p' with
  | nil =>
    cases p' with
    | nil => rfl
    | cons m p' =>
      obtain rfl : t = c := Option.some.inj hp
      obtain ⟨rfl, -⟩ := List.cons.inj heq
      exact (hclash hp' hq).elim
  | cons m p ih =>
    cases p' with
    | nil =>
      obtain rfl : t = c' := Option.some.inj hp'
      obtain ⟨rfl, -⟩ := List.cons.inj heq
      exact (hclash hp hq').elim
    | cons m' p' =>
      obtain ⟨rfl, htail⟩ := List.cons.inj heq
      obtain ⟨e, he, -, hwalk⟩ := walk_cons_eq_some.1 hp
      obtain ⟨e', he', -, hwalk'⟩ := walk_cons_eq_some.1 hp'
      obtain rfl : e = e' := Option.some.inj (he.symm.trans he')
      rw [ih hwalk hwalk' htail]

/-! ## Relabelling -/

/-- Change the label of the node at a place. -/
def relabel (f : α → α) : List String → NamedTree α → NamedTree α
  | [], node a cs => node (f a) cs
  | n :: p, node a cs => node a (cs.update (relabel f p) n)

variable {f : α → α}

theorem label_relabel (f : α → α) (p : List String) (t : NamedTree α) :
    (t.relabel f p).label = if p = [] then f t.label else t.label := by
  obtain ⟨a, cs⟩ := t
  cases p with
  | nil => rfl
  | cons n p => rfl

theorem child_relabel_self (f : α → α) (n : String) (p : List String) (t : NamedTree α) :
    (t.relabel f (n :: p)).child n = (t.child n).map (relabel f p) := by
  obtain ⟨a, cs⟩ := t
  exact NamedForest.find_update_self _ _ _

theorem child_relabel_of_ne (f : α → α) {n m : String} (h : n ≠ m) (p : List String) (t : NamedTree α) :
    (t.relabel f (m :: p)).child n = t.child n := by
  obtain ⟨a, cs⟩ := t
  exact NamedForest.find_update_of_ne _ h _

theorem child_relabel_nil (f : α → α) (n : String) (t : NamedTree α) : (t.relabel f []).child n = t.child n := by
  obtain ⟨a, cs⟩ := t
  rfl

section

variable (hf : ∀ a, may (f a) = may a)
include hf

theorem may_label_relabel (p : List String) (t : NamedTree α) : may (t.relabel f p).label = may t.label := by
  rw [label_relabel]
  split
  · exact hf _
  · rfl

/-- Up to the place of a relabelling, the same walks are there as before. -/
theorem walk_relabel_append (p q : List String) (t : NamedTree α) :
    (t.relabel f (p ++ q)).walk may p = (t.walk may p).map (relabel f q) := by
  induction p generalizing t with
  | nil => rfl
  | cons n p ih =>
    rw [List.cons_append, walk_cons, walk_cons, child_relabel_self]
    cases t.child n with
    | none => rfl
    | some c =>
      cases hc : may c.label with
      | false => simp [Option.filter, may_label_relabel hf, hc]
      | true => simp [Option.filter, may_label_relabel hf, hc, ih]

/-- Elsewhere nothing has changed. -/
theorem walk_relabel_elsewhere {p q : List String} (h : ¬ p <+: q) (t : NamedTree α) :
    (t.relabel f q).walk may p = t.walk may p := by
  induction q generalizing t p with
  | nil =>
    cases p with
    | nil => exact absurd List.nil_prefix h
    | cons n p => rw [walk_cons, walk_cons, child_relabel_nil]
  | cons m q ih =>
    cases p with
    | nil => exact absurd List.nil_prefix h
    | cons n p =>
      rw [walk_cons, walk_cons]
      by_cases hn : n = m
      · subst hn
        rw [child_relabel_self]
        have hp : ¬ p <+: q := fun hp => h ((List.prefix_cons_inj n).2 hp)
        cases t.child n with
        | none => rfl
        | some c =>
          cases hc : may c.label with
          | false => simp [Option.filter, may_label_relabel hf, hc]
          | true => simp [Option.filter, may_label_relabel hf, hc, ih hp]
      · rw [child_relabel_of_ne f hn]

/-- A relabelling opens no walk and closes none. -/
theorem walk_relabel_isSome (p q : List String) (t : NamedTree α) :
    ((t.relabel f q).walk may p).isSome = (t.walk may p).isSome := by
  by_cases h : p <+: q
  · obtain ⟨r, rfl⟩ := h
    rw [walk_relabel_append hf, Option.isSome_map]
  · rw [walk_relabel_elsewhere hf h]

/-- Only the label of the place itself is another one. -/
theorem walk_relabel_label {p q : List String} {c : NamedTree α} (hp : t.walk may p = some c) :
    ∃ c', (t.relabel f q).walk may p = some c' ∧ c'.label = (if p = q then f c.label else c.label) ∧
      ∀ may' : α → Bool, (∀ a, may' (f a) = may' a) → ∀ r, (c'.walk may' r).isSome = (c.walk may' r).isSome := by
  by_cases h : p <+: q
  · obtain ⟨r, rfl⟩ := h
    refine ⟨c.relabel f r, by rw [walk_relabel_append hf, hp]; rfl, ?_, ?_⟩
    · rw [label_relabel]
      simp
    · exact fun may' hf' r' => walk_relabel_isSome hf' r' r c
  · refine ⟨c, by rw [walk_relabel_elsewhere hf h, hp], ?_, fun _ _ _ => rfl⟩
    rw [if_neg]
    rintro rfl
    exact h (List.prefix_refl p)

end

end NamedTree

/-! ## Distinct names -/

mutual
/-- No two children of a node have the same name, and every name is a good one. -/
def NamedTree.WellNamed (good : String → Prop) : NamedTree α → Prop
  | .node _ cs => cs.names.Nodup ∧ cs.WellNamed good
def NamedForest.WellNamed (good : String → Prop) : NamedForest α → Prop
  | .nil => True
  | .cons n t rest => good n ∧ t.WellNamed good ∧ rest.WellNamed good
end

namespace NamedForest

variable {good : String → Prop}

theorem WellNamed.find {n : String} {t : NamedTree α} :
    ∀ {cs : NamedForest α}, cs.WellNamed good → cs.find n = some t → good n ∧ t.WellNamed good
  | .nil, _, h => by cases h
  | .cons m t' rest, hcs, h => by
    obtain ⟨hm, ht', hrest⟩ := hcs
    unfold NamedForest.find at h
    by_cases heq : m = n
    · subst heq
      rw [if_pos rfl] at h
      cases h
      exact ⟨hm, ht'⟩
    · rw [if_neg heq] at h
      exact hrest.find h

theorem WellNamed.update {f : NamedTree α → NamedTree α} (hf : ∀ t, t.WellNamed good → (f t).WellNamed good) (n : String) :
    ∀ {cs : NamedForest α}, cs.WellNamed good → (cs.update f n).WellNamed good
  | .nil, _ => trivial
  | .cons m t rest, hcs => by
    obtain ⟨hm, ht, hrest⟩ := hcs
    unfold NamedForest.update
    by_cases heq : m = n
    · rw [if_pos heq]
      exact ⟨hm, hf t ht, hrest⟩
    · rw [if_neg heq]
      exact ⟨hm, ht, hrest.update hf n⟩

end NamedForest

namespace NamedTree

variable {good : String → Prop} {may : α → Bool} {t d : NamedTree α}

theorem WellNamed.child {n : String} {c : NamedTree α} (h : t.WellNamed good) (hc : t.child n = some c) :
    good n ∧ c.WellNamed good := by
  obtain ⟨a, cs⟩ := t
  exact h.2.find hc

/-- The names on a walk are good ones. -/
theorem WellNamed.walk {p : List String} (h : t.WellNamed good) (hp : t.walk may p = some d) :
    (∀ n ∈ p, good n) ∧ d.WellNamed good := by
  induction p generalizing t with
  | nil =>
    cases hp
    exact ⟨by simp, h⟩
  | cons n p ih =>
    obtain ⟨c, hc, -, hwalk⟩ := walk_cons_eq_some.1 hp
    obtain ⟨hn, hgood⟩ := h.child hc
    obtain ⟨hall, hd⟩ := ih hgood hwalk
    exact ⟨List.forall_mem_cons.2 ⟨hn, hall⟩, hd⟩

theorem WellNamed.relabel (f : α → α) (p : List String) (h : t.WellNamed good) : (t.relabel f p).WellNamed good := by
  induction p generalizing t with
  | nil =>
    obtain ⟨a, cs⟩ := t
    exact h
  | cons n p ih =>
    obtain ⟨a, cs⟩ := t
    exact ⟨by simpa using h.1, h.2.update (fun t ht => ih ht) n⟩

end NamedTree

/-! ## All that can be reached -/

mutual
/-- The nodes that a walk can end at, each with its path. -/
def NamedTree.reach (may : α → Bool) : NamedTree α → List (List String × NamedTree α)
  | .node a cs => ([], .node a cs) :: cs.reach may
def NamedForest.reach (may : α → Bool) : NamedForest α → List (List String × NamedTree α)
  | .nil => []
  | .cons n t rest => (if may t.label then (t.reach may).map fun e => (n :: e.1, e.2) else []) ++ rest.reach may
end

variable {good : String → Prop} {may : α → Bool}

theorem NamedForest.mem_reach_cons {m : String} {t d : NamedTree α} {rest : NamedForest α} {p : List String} :
    (p, d) ∈ (NamedForest.cons m t rest).reach may ↔
      (may t.label = true ∧ ∃ q, p = m :: q ∧ (q, d) ∈ t.reach may) ∨ (p, d) ∈ rest.reach may := by
  have hreach : (NamedForest.cons m t rest).reach may =
      (if may t.label then (t.reach may).map fun e => (m :: e.1, e.2) else []) ++ rest.reach may := rfl
  rw [hreach, List.mem_append]
  refine or_congr_left ?_
  by_cases h : may t.label = true
  · rw [if_pos h, List.mem_map, and_iff_right h]
    constructor
    · rintro ⟨⟨q, d'⟩, hmem, heq⟩
      cases heq
      exact ⟨q, rfl, hmem⟩
    · rintro ⟨q, rfl, hmem⟩
      exact ⟨(q, d), hmem, rfl⟩
  · simp [h]

mutual
theorem NamedTree.mem_reach {p : List String} {d : NamedTree α} :
    ∀ {t : NamedTree α}, t.WellNamed good → ((p, d) ∈ t.reach may ↔ t.walk may p = some d)
  | .node a cs, h => by
    have hreach : (NamedTree.node a cs).reach may = ([], .node a cs) :: cs.reach may := rfl
    rw [hreach, List.mem_cons, NamedForest.mem_reach h.1 h.2]
    cases p with
    | nil =>
      constructor
      · rintro (⟨⟨⟩⟩ | ⟨n, q, c, ⟨⟩, -⟩)
        rfl
      · rintro ⟨⟩
        exact .inl rfl
    | cons n p =>
      have hchild : (NamedTree.node a cs).child n = cs.find n := rfl
      rw [NamedTree.walk_cons_eq_some, hchild]
      simp
theorem NamedForest.mem_reach {p : List String} {d : NamedTree α} :
    ∀ {cs : NamedForest α}, cs.names.Nodup → cs.WellNamed good → ((p, d) ∈ cs.reach may ↔
      ∃ n q c, p = n :: q ∧ cs.find n = some c ∧ may c.label = true ∧ c.walk may q = some d)
  | .nil, _, _ => by simp [NamedForest.reach, NamedForest.find]
  | .cons m t rest, hnodup, h => by
    obtain ⟨-, ht, hrest⟩ := h
    obtain ⟨hfresh, hnodup⟩ := List.nodup_cons.1 hnodup
    rw [NamedForest.mem_reach_cons, NamedForest.mem_reach hnodup hrest]
    constructor
    · rintro (⟨hmay, q, rfl, hmem⟩ | ⟨n, q, c, rfl, hfind, hc⟩)
      · exact ⟨m, q, t, rfl, by simp [NamedForest.find], hmay, (NamedTree.mem_reach ht).1 hmem⟩
      · have hne : m ≠ n := fun heq => hfresh (heq ▸ NamedForest.mem_names_of_find hfind)
        exact ⟨n, q, c, rfl, by simp [NamedForest.find, hne, hfind], hc⟩
    · rintro ⟨n, q, c, rfl, hfind, hmay, hwalk⟩
      unfold NamedForest.find at hfind
      by_cases heq : m = n
      · subst heq
        rw [if_pos rfl] at hfind
        cases hfind
        exact .inl ⟨hmay, q, rfl, (NamedTree.mem_reach ht).2 hwalk⟩
      · rw [if_neg heq] at hfind
        exact .inr ⟨n, q, c, rfl, hfind, hmay, hwalk⟩
end

/-! ## Mapped labels -/

variable {β : Type}

mutual
/-- Every label replaced by its image. -/
def NamedTree.map (g : α → β) : NamedTree α → NamedTree β
  | .node a cs => .node (g a) (cs.map g)
def NamedForest.map (g : α → β) : NamedForest α → NamedForest β
  | .nil => .nil
  | .cons n t rest => .cons n (t.map g) (rest.map g)
end

variable {g : α → β} {may : β → Bool}

namespace NamedForest

theorem map_cons (g : α → β) (n : String) (t : NamedTree α) (rest : NamedForest α) :
    (cons n t rest).map g = cons n (t.map g) (rest.map g) := rfl

theorem find_map (g : α → β) (n : String) : ∀ cs : NamedForest α, (cs.map g).find n = (cs.find n).map (NamedTree.map g)
  | nil => rfl
  | cons m t rest => by
    rw [map_cons, find_cons, find_cons, find_map g n rest]
    by_cases h : m = n
    · rw [if_pos h, if_pos h]
      rfl
    · rw [if_neg h, if_neg h]

theorem map_update {f : NamedTree α → NamedTree α} (hf : ∀ t, (f t).map g = t.map g) (n : String) :
    ∀ cs : NamedForest α, (cs.update f n).map g = cs.map g
  | nil => rfl
  | cons m t rest => by
    unfold update
    by_cases h : m = n
    · rw [if_pos h, map_cons, map_cons, hf]
    · rw [if_neg h, map_cons, map_cons, map_update hf n rest]

end NamedForest

namespace NamedTree

theorem label_map (g : α → β) (t : NamedTree α) : (t.map g).label = g t.label := by
  obtain ⟨a, cs⟩ := t
  rfl

theorem child_map (g : α → β) (t : NamedTree α) (n : String) : (t.map g).child n = (t.child n).map (map g) := by
  obtain ⟨a, cs⟩ := t
  exact NamedForest.find_map g n cs

/-- A relabelling that the map does not see. -/
theorem map_relabel {f : α → α} (hg : ∀ a, g (f a) = g a) (p : List String) (t : NamedTree α) :
    (t.relabel f p).map g = t.map g := by
  induction p generalizing t with
  | nil =>
    obtain ⟨a, cs⟩ := t
    unfold relabel map
    rw [hg]
  | cons n p ih =>
    obtain ⟨a, cs⟩ := t
    unfold relabel map
    rw [NamedForest.map_update ih]

/-- Where the walk goes is up to the mapped labels. -/
theorem walk_map (t : NamedTree α) (p : List String) :
    (t.map g).walk may p = (t.walk (fun a => may (g a)) p).map (map g) := by
  induction p generalizing t with
  | nil => rfl
  | cons n p ih =>
    rw [walk_cons, walk_cons, child_map]
    cases t.child n with
    | none => rfl
    | some c =>
      cases hc : may (g c.label) with
      | false => simp [Option.filter, label_map, hc]
      | true => simp [Option.filter, label_map, hc, ih]

end NamedTree

mutual
theorem NamedTree.reach_map : ∀ t : NamedTree α,
    (t.map g).reach may = (t.reach fun a => may (g a)).map fun e => (e.1, e.2.map g)
  | .node a cs => by
    have hmap : (NamedTree.node a cs).map g = .node (g a) (cs.map g) := rfl
    have hreach : (NamedTree.node a cs).reach (fun a => may (g a)) = ([], .node a cs) :: cs.reach fun a => may (g a) := rfl
    rw [hreach, List.map_cons, ← NamedForest.reach_map cs, hmap]
    rfl
theorem NamedForest.reach_map : ∀ cs : NamedForest α,
    (cs.map g).reach may = (cs.reach fun a => may (g a)).map fun e => (e.1, e.2.map g)
  | .nil => rfl
  | .cons n t rest => by
    have hreach : (NamedForest.cons n t rest).reach (fun a => may (g a)) =
        (if may (g t.label) then (t.reach fun a => may (g a)).map fun e => (n :: e.1, e.2) else []) ++
          rest.reach fun a => may (g a) := rfl
    have hmapped : (NamedForest.cons n (t.map g) (rest.map g)).reach may =
        (if may (t.map g).label then ((t.map g).reach may).map fun e => (n :: e.1, e.2) else []) ++
          (rest.map g).reach may := rfl
    rw [NamedForest.map_cons, hmapped, hreach, List.map_append, NamedForest.reach_map rest, NamedTree.reach_map t,
      NamedTree.label_map]
    by_cases h : may (g t.label) = true
    · rw [if_pos h, if_pos h, List.map_map, List.map_map]
      rfl
    · rw [if_neg h, if_neg h]
      rfl
end
