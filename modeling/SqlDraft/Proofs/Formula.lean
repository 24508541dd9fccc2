import Mathlib.Data.List.Basic
import Mathlib.Data.List.Induction
import SqlDraft.Combinator

/-!
# Boolean formulas

A formula lists alternatives, and an alternative lists operands, all of which have to hold: `AND`
binds tighter than `OR`.  When formulas are written one behind the other with combinators between
them, `OR` puts their alternatives side by side, but `AND` joins only the last alternative in front
of it to the first one behind it.  In parentheses a formula is one operand of another.
-/

namespace SqlDraft

/-- Alternatives, each of which lists what has to hold for it. -/
abbrev Alternatives (α : Type) := List (List α)

/-- A part of an operand. -/
inductive Part
  | word (content : String)
  /-- A formula in parentheses. -/
  | group (formula : List (List (List Part)))

/-- An operand of a formula.  It is an atom unless it is one formula in parentheses. -/
abbrev Operand := List Part

/-- A formula. -/
abbrev Formula := Alternatives Operand

mutual

/-- The truth of a formula when the truth of the atoms is given. -/
def Formula.holds (truth : Operand → Bool) : Formula → Bool
  | [] => false
  | alternative :: formula => Operand.allHold truth alternative || Formula.holds truth formula

/-- The truth of an alternative. -/
def Operand.allHold (truth : Operand → Bool) : List Operand → Bool
  | [] => true
  | operand :: operands => Operand.holds truth operand && Operand.allHold truth operands

/-- The truth of an operand. -/
def Operand.holds (truth : Operand → Bool) : Operand → Bool
  | [part] => Part.holds truth part
  | operand => truth operand

/-- The truth of a part that stands alone. -/
def Part.holds (truth : Operand → Bool) : Part → Bool
  | .word content => truth [.word content]
  | .group formula => Formula.holds truth formula

end

mutual

/-- The atoms of a formula. -/
def Formula.atoms : Formula → List Operand
  | [] => []
  | alternative :: formula => Operand.allAtoms alternative ++ Formula.atoms formula

/-- The atoms of an alternative. -/
def Operand.allAtoms : List Operand → List Operand
  | [] => []
  | operand :: operands => Operand.atoms operand ++ Operand.allAtoms operands

/-- The atoms of an operand. -/
def Operand.atoms : Operand → List Operand
  | [part] => Part.atoms part
  | operand => [operand]

/-- The atoms of a part that stands alone. -/
def Part.atoms : Part → List Operand
  | .word content => [[.word content]]
  | .group formula => Formula.atoms formula

end

/-- A formula in parentheses. -/
def Formula.enclosed (formula : Formula) : Formula := [[[.group formula]]]

namespace Alternatives

variable {α β : Type}

/-- Write alternatives behind others with `AND` between them. -/
def conjoin : Alternatives α → Alternatives α → Alternatives α
  | [], later => later
  | [last], [] => [last]
  | [last], first :: later => (last ++ first) :: later
  | alternative :: next :: earlier, later => alternative :: conjoin (next :: earlier) later

/-- Write alternatives behind others with a combinator between them. -/
def link : Combinator → Alternatives α → Alternatives α → Alternatives α
  | .and => conjoin
  | .or => (· ++ ·)

/-- Write alternatives one behind the other, all but the first behind their combinators. -/
def linked : List (Combinator × Alternatives α) → Alternatives α
  | [] => []
  | [(_, only)] => only
  | (_, first) :: (combinator, next) :: rest =>
      link combinator first (linked ((combinator, next) :: rest))

/-- Write alternatives one behind the other with `AND` between them. -/
def conjoined (chain : List (Alternatives α)) : Alternatives α := chain.foldr conjoin []

/-- The chains in which items are joined by `AND`; `OR` stands between the chains. -/
def chains (items : List (Combinator × α)) : Alternatives α :=
  linked (items.map (Prod.map id fun item => [[item]]))

theorem conjoin_nil (earlier : Alternatives α) : conjoin earlier [] = earlier := by
  induction earlier with
  | nil => rfl
  | cons alternative earlier ih =>
      cases earlier with
      | nil => rfl
      | cons next earlier => rw [conjoin, ih]

theorem conjoin_append_singleton (front : Alternatives α) (last first : List α)
    (back : Alternatives α) :
    conjoin (front ++ [last]) (first :: back) = front ++ (last ++ first) :: back := by
  induction front with
  | nil => rfl
  | cons alternative front ih =>
      cases front with
      | nil => rfl
      | cons next front => exact congrArg (alternative :: ·) ih

/-- Two alternatives are joined unless there are none on one side. -/
theorem conjoin_cases (earlier later : Alternatives α) :
    (earlier = [] ∧ conjoin earlier later = later) ∨
    (later = [] ∧ conjoin earlier later = earlier) ∨
    ∃ front last first back, earlier = front ++ [last] ∧ later = first :: back ∧
      conjoin earlier later = front ++ (last ++ first) :: back := by
  rcases List.eq_nil_or_concat' earlier with rfl | ⟨front, last, rfl⟩
  · exact .inl ⟨rfl, rfl⟩
  · cases later with
    | nil => exact .inr (.inl ⟨rfl, conjoin_nil _⟩)
    | cons first back =>
        exact .inr (.inr ⟨front, last, first, back, rfl, rfl, conjoin_append_singleton _ _ _ _⟩)

theorem flatten_conjoin (earlier later : Alternatives α) :
    (conjoin earlier later).flatten = earlier.flatten ++ later.flatten := by
  rcases conjoin_cases earlier later with
    ⟨rfl, same⟩ | ⟨rfl, same⟩ | ⟨front, last, first, back, rfl, rfl, joined⟩
  · rw [same, List.flatten_nil, List.nil_append]
  · rw [same, List.flatten_nil, List.append_nil]
  · rw [joined]
    simp

theorem map_conjoin (function : α → β) (earlier later : Alternatives α) :
    (conjoin earlier later).map (List.map function) =
      conjoin (earlier.map (List.map function)) (later.map (List.map function)) := by
  rcases conjoin_cases earlier later with
    ⟨rfl, same⟩ | ⟨rfl, same⟩ | ⟨front, last, first, back, rfl, rfl, joined⟩
  · rw [same]
    rfl
  · rw [same, List.map_nil, conjoin_nil]
  · rw [joined, List.map_append, List.map_append, List.map_cons, List.map_cons, List.map_cons,
      List.map_nil, conjoin_append_singleton, List.map_append]

theorem length_conjoin {earlier later : Alternatives α} (earlierPresent : earlier ≠ [])
    (laterPresent : later ≠ []) :
    (conjoin earlier later).length + 1 = earlier.length + later.length := by
  rcases conjoin_cases earlier later with
    ⟨nothing, -⟩ | ⟨nothing, -⟩ | ⟨front, last, first, back, rfl, rfl, joined⟩
  · exact absurd nothing earlierPresent
  · exact absurd nothing laterPresent
  · rw [joined]
    simp only [List.length_append, List.length_cons, List.length_nil]
    omega

theorem conjoin_append (earlier : Alternatives α) {middle : Alternatives α}
    (present : middle ≠ []) (later : Alternatives α) :
    conjoin earlier (middle ++ later) = conjoin earlier middle ++ later := by
  rcases conjoin_cases earlier middle with
    ⟨rfl, same⟩ | ⟨nothing, -⟩ | ⟨front, last, first, back, rfl, rfl, joined⟩
  · rw [same]
    rfl
  · exact absurd nothing present
  · rw [joined, List.cons_append, conjoin_append_singleton, List.append_assoc, List.cons_append]

/-- There are alternatives, and none of them is empty. -/
structure IsFull (alternatives : Alternatives α) : Prop where
  /-- There are alternatives. -/
  present : alternatives ≠ []
  /-- No alternative is empty. -/
  filled : [] ∉ alternatives

theorem IsFull.ne_nil {alternatives : Alternatives α} (full : alternatives.IsFull)
    {alternative : List α} (mem : alternative ∈ alternatives) : alternative ≠ [] := by
  rintro rfl
  exact full.filled mem

theorem IsFull.conjoin {earlier later : Alternatives α} (earlierFull : earlier.IsFull)
    (laterFull : later.IsFull) : (earlier.conjoin later).IsFull := by
  rcases conjoin_cases earlier later with
    ⟨nothing, -⟩ | ⟨nothing, -⟩ | ⟨front, last, first, back, rfl, rfl, joined⟩
  · exact absurd nothing earlierFull.present
  · exact absurd nothing laterFull.present
  · obtain ⟨-, filled⟩ := earlierFull
    obtain ⟨-, others⟩ := laterFull
    rw [joined]
    constructor
    · simp
    · simp_all

theorem IsFull.link {earlier later : Alternatives α} (earlierFull : earlier.IsFull)
    (combinator : Combinator) (laterFull : later.IsFull) :
    (link combinator earlier later).IsFull := by
  cases combinator with
  | and => exact earlierFull.conjoin laterFull
  | or =>
      refine ⟨List.append_ne_nil_of_left_ne_nil earlierFull.present later, fun mem => ?_⟩
      exact (List.mem_append.mp mem).elim earlierFull.filled laterFull.filled

theorem isFull_linked {items : List (Combinator × Alternatives α)} (present : items ≠ [])
    (full : ∀ item ∈ items, item.2.IsFull) : (linked items).IsFull := by
  induction items with
  | nil => exact absurd rfl present
  | cons item rest ih =>
      obtain ⟨first, others⟩ := List.forall_mem_cons.mp full
      cases rest with
      | nil => exact first
      | cons next rest => exact first.link next.1 (ih (List.cons_ne_nil _ _) others)

theorem flatten_link (combinator : Combinator) (earlier later : Alternatives α) :
    (link combinator earlier later).flatten = earlier.flatten ++ later.flatten := by
  cases combinator with
  | and => exact flatten_conjoin earlier later
  | or => exact List.flatten_append

theorem map_link (function : α → β) (combinator : Combinator) (earlier later : Alternatives α) :
    (link combinator earlier later).map (List.map function) =
      link combinator (earlier.map (List.map function)) (later.map (List.map function)) := by
  cases combinator with
  | and => exact map_conjoin function earlier later
  | or => exact List.map_append

theorem flatten_linked (items : List (Combinator × Alternatives α)) :
    (linked items).flatten = items.flatMap fun item => item.2.flatten := by
  induction items with
  | nil => rfl
  | cons item rest ih =>
      cases rest with
      | nil => simp [linked]
      | cons next rest => rw [linked, flatten_link, ih, List.flatMap_cons (x := item)]

theorem map_linked (function : α → β) (items : List (Combinator × Alternatives α)) :
    (linked items).map (List.map function) =
      linked (items.map (Prod.map id (List.map (List.map function)))) := by
  induction items with
  | nil => rfl
  | cons item rest ih =>
      cases rest with
      | nil => rfl
      | cons next rest =>
          rw [linked, map_link, ih]
          rfl

/-- The chains consist of the items in their order. -/
theorem flatten_chains (items : List (Combinator × α)) :
    (chains items).flatten = items.map Prod.snd := by
  rw [chains, flatten_linked, List.flatMap_map, List.map_eq_flatMap]
  rfl

theorem exists_of_mem_chains {items : List (Combinator × α)} {chain : List α}
    (mem : chain ∈ chains items) {member : α} (inside : member ∈ chain) :
    ∃ item ∈ items, item.2 = member := by
  refine List.mem_map.mp ?_
  rw [← flatten_chains]
  exact List.mem_flatten.mpr ⟨chain, mem, inside⟩

theorem chains_map (function : α → β) (items : List (Combinator × α)) :
    chains (items.map (Prod.map id function)) = (chains items).map (List.map function) := by
  rw [chains, chains, map_linked, List.map_map, List.map_map]
  rfl

theorem isFull_chains {items : List (Combinator × α)} (present : items ≠ []) :
    (chains items).IsFull := by
  refine isFull_linked (fun nothing => present (List.map_eq_nil_iff.mp nothing)) ?_
  rintro _ mem
  obtain ⟨item, -, rfl⟩ := List.mem_map.mp mem
  exact ⟨List.cons_ne_nil _ _, fun mem => by cases List.mem_singleton.mp mem⟩

theorem chains_cons_cons (item next : Combinator × α) (rest : List (Combinator × α)) :
    chains (item :: next :: rest) = link next.1 [[item.2]] (chains (next :: rest)) := rfl

theorem exists_chains_cons (item : Combinator × α) (rest : List (Combinator × α)) :
    ∃ chain more, chains (item :: rest) = (item.2 :: chain) :: more := by
  cases rest with
  | nil => exact ⟨[], [], rfl⟩
  | cons next rest =>
      rw [chains_cons_cons]
      cases next.1 with
      | or => exact ⟨[], chains (next :: rest), rfl⟩
      | and =>
          have present := (isFull_chains (List.cons_ne_nil next rest)).present
          obtain ⟨chain, more, cut⟩ := List.exists_cons_of_ne_nil present
          rw [cut]
          exact ⟨chain, more, rfl⟩

theorem conjoined_singleton (only : Alternatives α) : conjoined [only] = only := conjoin_nil only

theorem conjoined_cons (first : Alternatives α) (chain : List (Alternatives α)) :
    conjoined (first :: chain) = conjoin first (conjoined chain) := rfl

theorem isFull_conjoined {chain : List (Alternatives α)} (present : chain ≠ [])
    (full : ∀ alternatives ∈ chain, alternatives.IsFull) : (conjoined chain).IsFull := by
  induction chain, present using List.recNeNil with
  | singleton only =>
      rw [conjoined_singleton]
      exact full only (List.mem_singleton_self only)
  | cons first chain present ih =>
      obtain ⟨firstFull, others⟩ := List.forall_mem_cons.mp full
      exact firstFull.conjoin (ih others)

theorem flatten_conjoined (chain : List (Alternatives α)) :
    (conjoined chain).flatten = chain.flatMap List.flatten := by
  induction chain with
  | nil => rfl
  | cons first chain ih => rw [conjoined_cons, flatten_conjoin, ih, List.flatMap_cons]

/-- Linked alternatives are those of the chains side by side. -/
theorem linked_eq_flatMap {items : List (Combinator × Alternatives α)}
    (full : ∀ item ∈ items, item.2.IsFull) : linked items = (chains items).flatMap conjoined := by
  induction items with
  | nil => rfl
  | cons item rest ih =>
      obtain ⟨-, others⟩ := List.forall_mem_cons.mp full
      cases rest with
      | nil =>
          have alone : chains [item] = [[item.2]] := rfl
          rw [alone, List.flatMap_singleton]
          exact (conjoined_singleton item.2).symm
      | cons next rest =>
          obtain ⟨chain, more, cut⟩ := exists_chains_cons next rest
          have members : ∀ member ∈ next.2 :: chain, member.IsFull := by
            intro member inside
            have mem : next.2 :: chain ∈ chains (next :: rest) := by
              rw [cut]
              exact List.mem_cons_self
            obtain ⟨other, given, rfl⟩ := exists_of_mem_chains mem inside
            exact others other given
          have joined := isFull_conjoined (List.cons_ne_nil _ _) members
          rw [linked, ih others, chains_cons_cons, cut]
          cases next.1 with
          | or => exact congrArg (· ++ _) (conjoined_singleton item.2).symm
          | and =>
              rw [List.flatMap_cons, link, link, conjoin_append _ joined.present]
              rfl

end Alternatives
end SqlDraft
