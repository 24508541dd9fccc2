import SqlDraft.Proofs.Formula

/-!
# What precedence does to linked formulas

Linking formulas is meant to combine their truth, but without parentheses `AND` takes the last
alternative in front of it and the first one behind it away from their formulas.  What is meant
implies what is written.  The two agree if no formula next to an `AND` has several alternatives, and
if the formulas have no atoms in common, they agree in no other case.
-/

namespace SqlDraft

open Alternatives

theorem exists_two {α : Type} {items : List α} (present : items ≠ []) (long : items.length ≠ 1) :
    ∃ first second rest, items = first :: second :: rest := by
  obtain ⟨first, items, rfl⟩ := List.exists_cons_of_ne_nil present
  have more : items ≠ [] := by
    rintro rfl
    exact long rfl
  obtain ⟨second, rest, rfl⟩ := List.exists_cons_of_ne_nil more
  exact ⟨first, second, rest, rfl⟩

variable {truth : Operand → Bool}

namespace Operand

theorem allHold_eq_all (truth : Operand → Bool) (operands : List Operand) :
    allHold truth operands = operands.all (holds truth) := by
  induction operands with
  | nil => rfl
  | cons operand operands ih => rw [allHold, ih, List.all_cons]

theorem allAtoms_eq_flatMap (operands : List Operand) :
    allAtoms operands = operands.flatMap atoms := by
  induction operands with
  | nil => rfl
  | cons operand operands ih => rw [allAtoms, ih, List.flatMap_cons]

/-- If all atoms of the operand have one truth, so does the operand. -/
def IsSettled (operand : Operand) : Prop :=
  ∀ (truth : Operand → Bool) (value : Bool), (∀ atom ∈ operand.atoms, truth atom = value) →
    operand.holds truth = value

end Operand

namespace Formula

theorem holds_eq_any (truth : Operand → Bool) (formula : Formula) :
    formula.holds truth = formula.any fun alternative => alternative.all (Operand.holds truth) := by
  induction formula with
  | nil => rfl
  | cons alternative formula ih => rw [holds, Operand.allHold_eq_all, ih, List.any_cons]

theorem atoms_eq_flatMap (formula : Formula) :
    formula.atoms = formula.flatten.flatMap Operand.atoms := by
  induction formula with
  | nil => rfl
  | cons alternative formula ih =>
      rw [atoms, ih, Operand.allAtoms_eq_flatMap, List.flatten_cons, List.flatMap_append]

theorem holds_append (truth : Operand → Bool) (earlier later : Formula) :
    holds truth (earlier ++ later) = (earlier.holds truth || later.holds truth) := by
  rw [holds_eq_any, holds_eq_any, holds_eq_any, List.any_append]

theorem holds_flatMap {α : Type} (truth : Operand → Bool) (items : List α) (part : α → Formula) :
    holds truth (items.flatMap part) = items.any fun item => (part item).holds truth := by
  induction items with
  | nil => rfl
  | cons item items ih => rw [List.flatMap_cons, holds_append, ih, List.any_cons]

theorem holds_of_mem {formula : Formula} {alternative : List Operand} (mem : alternative ∈ formula)
    (holds : alternative.all (Operand.holds truth) = true) : formula.holds truth = true := by
  rw [holds_eq_any]
  exact List.any_eq_true.mpr ⟨alternative, mem, holds⟩

theorem holds_conjoin {earlier later : Formula} (earlierHolds : earlier.holds truth = true)
    (laterHolds : later.holds truth = true) : holds truth (conjoin earlier later) = true := by
  rcases conjoin_cases earlier later with
    ⟨-, same⟩ | ⟨-, same⟩ | ⟨front, last, first, back, rfl, rfl, joined⟩
  · rwa [same]
  · rwa [same]
  · rw [joined]
    simp only [holds_eq_any, List.any_append, List.any_cons, List.any_nil, List.all_append,
      Bool.or_false, Bool.or_eq_true, Bool.and_eq_true] at earlierHolds laterHolds ⊢
    -- The two joined alternatives hold unless one of the others does.
    rcases earlierHolds with front | last
    · exact .inl front
    · exact .inr (laterHolds.imp_left fun first => ⟨last, first⟩)

theorem holds_conjoined {chain : List Formula} (present : chain ≠ [])
    (all : ∀ formula ∈ chain, formula.holds truth = true) :
    holds truth (conjoined chain) = true := by
  induction chain, present using List.recNeNil with
  | singleton only =>
      rw [conjoined_singleton]
      exact all only (List.mem_singleton_self only)
  | cons first chain present ih =>
      obtain ⟨firstHolds, others⟩ := List.forall_mem_cons.mp all
      exact holds_conjoin firstHolds (ih others)

theorem conjoined_of_single {chain : List Formula} (present : chain ≠ [])
    (single : ∀ formula ∈ chain, formula.length = 1) :
    conjoined chain = [chain.flatMap List.flatten] := by
  induction chain, present using List.recNeNil with
  | singleton only =>
      have alone := single only (List.mem_singleton_self only)
      obtain ⟨operands, rfl⟩ := List.length_eq_one_iff.mp alone
      simp [conjoined_singleton]
  | cons first chain present ih =>
      obtain ⟨firstSingle, others⟩ := List.forall_mem_cons.mp single
      obtain ⟨operands, rfl⟩ := List.length_eq_one_iff.mp firstSingle
      rw [conjoined_cons, ih others]
      simp [conjoin]

theorem holds_of_single {formula : Formula} (single : formula.length = 1) :
    formula.holds truth = formula.flatten.all (Operand.holds truth) := by
  obtain ⟨operands, rfl⟩ := List.length_eq_one_iff.mp single
  simp [holds_eq_any]

theorem holds_conjoined_of_single {chain : List Formula} (present : chain ≠ [])
    (single : ∀ formula ∈ chain, formula.length = 1) :
    holds truth (conjoined chain) = chain.all (holds truth) := by
  rw [conjoined_of_single present single, holds_of_single rfl, List.flatten_singleton,
    List.all_flatMap, Bool.eq_iff_iff, List.all_eq_true, List.all_eq_true]
  exact forall₂_congr fun formula mem => by rw [holds_of_single (single formula mem)]

/-- The formula that is meant: every formula is one operand. -/
def intended (items : List (Combinator × Formula)) : Formula :=
  linked (items.map (Prod.map id enclosed))

/-- No formula next to an `AND` has several alternatives. -/
def Guarded (items : List (Combinator × Formula)) : Prop :=
  items.IsChain fun earlier later =>
    later.1 = .and → earlier.2.length = 1 ∧ later.2.length = 1

instance (items : List (Combinator × Formula)) : Decidable (Guarded items) :=
  inferInstanceAs (Decidable (List.IsChain _ _))

/-- No two of the formulas have an atom in common. -/
def Apart (items : List (Combinator × Formula)) : Prop :=
  items.Pairwise fun earlier later => earlier.2.atoms.Disjoint later.2.atoms

theorem holds_intended (truth : Operand → Bool) (items : List (Combinator × Formula)) :
    holds truth (intended items) = (chains items).any fun chain => chain.all (holds truth) := by
  have operands :
      intended items = (chains items).map (List.map fun formula => [.group formula]) := by
    rw [← chains_map, chains, List.map_map]
    rfl
  rw [operands, holds_eq_any, List.any_map]
  refine congrArg (List.any _) (funext fun chain => ?_)
  rw [Function.comp_apply, List.all_map]
  rfl

/-- What is meant does not hold if every chain has a formula that does not. -/
theorem not_holds_intended {items : List (Combinator × Formula)}
    (fails : ∀ chain ∈ chains items, ∃ formula ∈ chain, formula.holds truth = false) :
    holds truth (intended items) = false := by
  rw [holds_intended, List.any_eq_false]
  intro chain mem all
  obtain ⟨formula, inside, fails⟩ := fails chain mem
  rw [List.all_eq_true.mp all formula inside] at fails
  cases fails

theorem holds_linked {items : List (Combinator × Formula)} (full : ∀ item ∈ items, item.2.IsFull) :
    holds truth (linked items) = (chains items).any fun chain => holds truth (conjoined chain) := by
  rw [linked_eq_flatMap full, holds_flatMap]

/-- What is meant implies what is written. -/
theorem holds_linked_of_intended {items : List (Combinator × Formula)} (present : items ≠ [])
    (full : ∀ item ∈ items, item.2.IsFull) (meant : holds truth (intended items) = true) :
    holds truth (linked items) = true := by
  rw [holds_intended, List.any_eq_true] at meant
  rw [holds_linked full, List.any_eq_true]
  obtain ⟨chain, mem, all⟩ := meant
  have nonempty := (isFull_chains present).ne_nil mem
  exact ⟨chain, mem, holds_conjoined nonempty (List.all_eq_true.mp all)⟩

/-- In a chain of several formulas each of them is next to an `AND`. -/
theorem guarded_iff (items : List (Combinator × Formula)) :
    Guarded items ↔ ∀ chain ∈ chains items,
      chain.length = 1 ∨ ∀ formula ∈ chain, formula.length = 1 := by
  induction items with
  | nil => exact iff_of_true List.IsChain.nil (List.forall_mem_nil _)
  | cons item rest ih =>
      cases rest with
      | nil => exact iff_of_true (List.IsChain.singleton item) (by simp [chains, linked])
      | cons next rest =>
          obtain ⟨chain, more, cut⟩ := exists_chains_cons next rest
          rw [Guarded, List.isChain_cons_cons, ← Guarded, ih, chains_cons_cons, cut]
          cases next.1 with
          | or => simp [link]
          | and =>
              have grows : ∀ length : Nat, length + 1 + 1 ≠ 1 := by omega
              simp only [link, conjoin, List.singleton_append, List.forall_mem_cons,
                List.length_cons, forall_const, grows, false_or]
              constructor
              · rintro ⟨⟨first, second⟩, alone | ⟨-, others⟩, later⟩
                · obtain rfl := List.length_eq_zero_iff.mp (Nat.add_right_cancel alone)
                  exact ⟨⟨first, second, List.forall_mem_nil _⟩, later⟩
                · exact ⟨⟨first, second, others⟩, later⟩
              · rintro ⟨⟨first, second, others⟩, later⟩
                exact ⟨⟨first, second⟩, .inr ⟨second, others⟩, later⟩

/-- If no formula next to an `AND` has several alternatives, what is written is what is meant. -/
theorem holds_linked_of_guarded {items : List (Combinator × Formula)} (present : items ≠ [])
    (full : ∀ item ∈ items, item.2.IsFull) (guarded : Guarded items) :
    holds truth (linked items) = holds truth (intended items) := by
  rw [holds_linked full, holds_intended, Bool.eq_iff_iff, List.any_eq_true, List.any_eq_true]
  refine exists_congr fun chain => and_congr_right fun mem => ?_
  rcases (guarded_iff items).mp guarded chain mem with alone | single
  · obtain ⟨only, rfl⟩ := List.length_eq_one_iff.mp alone
    rw [conjoined_singleton]
    simp
  · rw [holds_conjoined_of_single ((isFull_chains present).ne_nil mem) single]

/-- A formula that is full and whose operands are settled. -/
structure IsSettled (formula : Formula) : Prop where
  /-- There are alternatives, and none is empty. -/
  full : formula.IsFull
  /-- Every operand is settled. -/
  operands : ∀ operand ∈ formula.flatten, operand.IsSettled

theorem IsSettled.holds_operand {formula : Formula} (settled : formula.IsSettled) {value : Bool}
    (same : ∀ atom ∈ formula.atoms, truth atom = value) {operand : Operand}
    (mem : operand ∈ formula.flatten) : operand.holds truth = value := by
  refine settled.operands operand mem truth value fun atom among => same atom ?_
  rw [atoms_eq_flatMap]
  exact List.mem_flatMap.mpr ⟨operand, mem, among⟩

theorem IsSettled.all_of_mem {formula : Formula} (settled : formula.IsSettled)
    (same : ∀ atom ∈ formula.atoms, truth atom = true) {alternative : List Operand}
    (mem : alternative ∈ formula) : alternative.all (Operand.holds truth) = true :=
  List.all_eq_true.mpr fun _ inside =>
    settled.holds_operand same (List.mem_flatten.mpr ⟨alternative, mem, inside⟩)

theorem IsSettled.not_holds {formula : Formula} (settled : formula.IsSettled)
    (same : ∀ atom ∈ formula.atoms, truth atom = false) : formula.holds truth = false := by
  rw [holds_eq_any, List.any_eq_false]
  intro alternative mem
  obtain ⟨operand, operands, rfl⟩ := List.exists_cons_of_ne_nil (settled.full.ne_nil mem)
  have fails := settled.holds_operand same
    (List.mem_flatten.mpr ⟨_, mem, List.mem_cons_self⟩)
  simp [fails]

theorem IsSettled.group {formula : Formula} (settled : formula.IsSettled) :
    Operand.IsSettled [.group formula] := by
  intro truth value same
  cases value with
  | false => exact settled.not_holds same
  | true =>
      obtain ⟨alternative, others, rfl⟩ := List.exists_cons_of_ne_nil settled.full.present
      exact holds_of_mem List.mem_cons_self (settled.all_of_mem same List.mem_cons_self)

theorem isSettled_conjoined {chain : List Formula} (present : chain ≠ [])
    (settled : ∀ formula ∈ chain, formula.IsSettled) : IsSettled (conjoined chain) where
  full := isFull_conjoined present fun formula mem => (settled formula mem).full
  operands := by
    intro operand mem
    rw [flatten_conjoined] at mem
    obtain ⟨formula, among, inside⟩ := List.mem_flatMap.mp mem
    exact (settled formula among).operands operand inside

theorem mem_atoms_conjoined {chain : List Formula} {atom : Operand} :
    atom ∈ atoms (conjoined chain) ↔ ∃ formula ∈ chain, atom ∈ formula.atoms := by
  simp only [atoms_eq_flatMap, flatten_conjoined, List.mem_flatMap]
  constructor
  · rintro ⟨operand, ⟨formula, mem, inside⟩, among⟩
    exact ⟨formula, mem, operand, inside, among⟩
  · rintro ⟨formula, mem, operand, inside, among⟩
    exact ⟨operand, ⟨formula, mem, inside⟩, among⟩

theorem single_of_length_conjoined {chain : List Formula} (present : chain ≠ [])
    (full : ∀ formula ∈ chain, formula.IsFull) (single : (conjoined chain).length = 1) :
    ∀ formula ∈ chain, formula.length = 1 := by
  induction chain, present using List.recNeNil with
  | singleton only =>
      rw [conjoined_singleton] at single
      intro formula mem
      rwa [List.mem_singleton.mp mem]
  | cons first chain present ih =>
      obtain ⟨firstFull, others⟩ := List.forall_mem_cons.mp full
      have laterPresent := (isFull_conjoined present others).present
      have lengths := length_conjoin firstFull.present laterPresent
      rw [conjoined_cons] at single
      have firstPositive := List.length_pos_of_ne_nil firstFull.present
      have laterPositive := List.length_pos_of_ne_nil laterPresent
      exact List.forall_mem_cons.mpr ⟨by omega, ih others (by omega)⟩

/-- The first one of several alternatives holds whatever `AND` joins to the last one. -/
theorem IsSettled.holds_conjoin_left {earlier : Formula} (settled : earlier.IsSettled)
    (several : earlier.length ≠ 1) (same : ∀ atom ∈ earlier.atoms, truth atom = true)
    (later : Formula) : holds truth (conjoin earlier later) = true := by
  obtain ⟨first, second, rest, rfl⟩ := exists_two settled.full.present several
  exact holds_of_mem List.mem_cons_self (settled.all_of_mem same List.mem_cons_self)

theorem IsSettled.holds_conjoin_right {later : Formula} (settled : later.IsSettled)
    (several : later.length ≠ 1) (same : ∀ atom ∈ later.atoms, truth atom = true)
    (earlier : Formula) : holds truth (conjoin earlier later) = true := by
  obtain ⟨first, second, rest, rfl⟩ := exists_two settled.full.present several
  have inside : second ∈ first :: second :: rest := List.mem_cons_of_mem _ List.mem_cons_self
  refine holds_of_mem ?_ (settled.all_of_mem same inside)
  rcases List.eq_nil_or_concat' earlier with rfl | ⟨front, last, rfl⟩
  · exact inside
  · rw [conjoin_append_singleton]
    exact List.mem_append_right _ (List.mem_cons_of_mem _ List.mem_cons_self)

/-- If one of several formulas in a chain has several alternatives, then the chain can hold although
one of the formulas does not, since an alternative of the chain leaves that formula out. -/
theorem exists_truth_of_chain {first : Formula} {chain : List Formula} (present : chain ≠ [])
    (settled : ∀ formula ∈ first :: chain, formula.IsSettled)
    (apart : ∀ formula ∈ chain, first.atoms.Disjoint formula.atoms)
    (several : ∃ formula ∈ first :: chain, formula.length ≠ 1) :
    ∃ support : List Operand,
      (∀ atom ∈ support, ∃ formula ∈ first :: chain, atom ∈ formula.atoms) ∧
      ∀ truth : Operand → Bool, (∀ atom, truth atom = true ↔ atom ∈ support) →
        holds truth (conjoined (first :: chain)) = true ∧
          ∃ formula ∈ first :: chain, formula.holds truth = false := by
  obtain ⟨firstSettled, others⟩ := List.forall_mem_cons.mp settled
  by_cases single : first.length = 1
  · -- What follows has several alternatives, one of which leaves out the first formula.
    have long : (conjoined chain).length ≠ 1 := by
      intro alone
      obtain ⟨formula, mem, long⟩ := several
      have fulls := fun formula mem => (others formula mem).full
      rcases List.mem_cons.mp mem with rfl | mem
      · exact long single
      · exact long (single_of_length_conjoined present fulls alone formula mem)
    refine ⟨atoms (conjoined chain), ?_, fun truth supported => ⟨?_, first, List.mem_cons_self, ?_⟩⟩
    · intro atom among
      obtain ⟨formula, mem, inside⟩ := mem_atoms_conjoined.mp among
      exact ⟨formula, List.mem_cons_of_mem first mem, inside⟩
    · exact (isSettled_conjoined present others).holds_conjoin_right long
        (fun atom mem => (supported atom).mpr mem) first
    · refine firstSettled.not_holds fun atom mem => Bool.eq_false_iff.mpr fun shown => ?_
      obtain ⟨formula, among, inside⟩ := mem_atoms_conjoined.mp ((supported atom).mp shown)
      exact apart formula among mem inside
  · -- The first formula has several alternatives, one of which leaves out the next formula.
    obtain ⟨next, rest, rfl⟩ := List.exists_cons_of_ne_nil present
    have second : next ∈ first :: next :: rest := List.mem_cons_of_mem _ List.mem_cons_self
    refine ⟨first.atoms, ?_, fun truth supported => ⟨?_, next, second, ?_⟩⟩
    · exact fun atom among => ⟨first, List.mem_cons_self, among⟩
    · exact firstSettled.holds_conjoin_left single (fun atom mem => (supported atom).mpr mem) _
    · refine (others next List.mem_cons_self).not_holds fun atom mem => ?_
      refine Bool.eq_false_iff.mpr fun shown => ?_
      exact apart next List.mem_cons_self ((supported atom).mp shown) mem

theorem apart_of_chains {items : List (Combinator × Formula)} (apart : Apart items)
    {before after : List (List Formula)} {chain : List Formula}
    (cut : chains items = before ++ chain :: after) :
    (chain.Pairwise fun earlier later => earlier.atoms.Disjoint later.atoms) ∧
    ∀ other ∈ before ++ after, ∀ formula ∈ other, ∀ member ∈ chain,
      formula.atoms.Disjoint member.atoms := by
  have members : (items.map Prod.snd).Pairwise fun earlier later : Formula =>
      earlier.atoms.Disjoint later.atoms := List.pairwise_map.mpr apart
  rw [← flatten_chains, cut, List.pairwise_flatten, List.pairwise_append] at members
  obtain ⟨within, -, later, earlier⟩ := members
  refine ⟨within chain (List.mem_append_right _ List.mem_cons_self), ?_⟩
  intro other mem formula inside member among
  rcases List.mem_append.mp mem with mem | mem
  · exact earlier other mem chain List.mem_cons_self formula inside member among
  · have behind : member.atoms.Disjoint formula.atoms :=
      List.rel_of_pairwise_cons later mem member among formula inside
    exact List.disjoint_comm.mp behind

/-- Formulas that have no atoms in common mean something else as soon as one of them has several
alternatives and stands next to an `AND`. -/
theorem exists_truth_of_not_guarded {items : List (Combinator × Formula)} (present : items ≠ [])
    (settled : ∀ item ∈ items, item.2.IsSettled) (apart : Apart items)
    (broken : ¬ Guarded items) :
    ∃ truth : Operand → Bool, holds truth (linked items) = true ∧
      holds truth (intended items) = false := by
  classical
  obtain ⟨chain, mem, long, several⟩ : ∃ chain ∈ chains items,
      chain.length ≠ 1 ∧ ∃ formula ∈ chain, formula.length ≠ 1 := by
    simpa [guarded_iff] using broken
  have chainsFull := isFull_chains present
  have allSettled : ∀ other ∈ chains items, ∀ formula ∈ other, formula.IsSettled := by
    intro other among formula inside
    obtain ⟨item, source, rfl⟩ := exists_of_mem_chains among inside
    exact settled item source
  obtain ⟨before, after, cut⟩ := List.append_of_mem mem
  obtain ⟨within, between⟩ := apart_of_chains apart cut
  obtain ⟨first, next, rest, rfl⟩ := exists_two (chainsFull.ne_nil mem) long
  obtain ⟨support, found, decides⟩ := exists_truth_of_chain (List.cons_ne_nil next rest)
    (allSettled _ mem) (fun _ => List.rel_of_pairwise_cons within) several
  obtain ⟨written, formula, inside, fails⟩ :=
    decides (fun atom => decide (atom ∈ support)) fun atom => decide_eq_true_iff
  refine ⟨fun atom => decide (atom ∈ support), ?_, not_holds_intended fun other among => ?_⟩
  · rw [holds_linked fun item source => (settled item source).full]
    exact List.any_eq_true.mpr ⟨_, mem, written⟩
  · have same : other = first :: next :: rest ∨ other ∈ before ++ after := by
      rw [cut] at among
      simpa [or_left_comm] using among
    rcases same with rfl | elsewhere
    · exact ⟨formula, inside, fails⟩
    · -- No atom of another chain is in the support.
      obtain ⟨head, tail, rfl⟩ := List.exists_cons_of_ne_nil (chainsFull.ne_nil among)
      refine ⟨head, List.mem_cons_self, ?_⟩
      refine (allSettled _ among head List.mem_cons_self).not_holds fun atom mentioned => ?_
      refine decide_eq_false fun held => ?_
      obtain ⟨member, within, source⟩ := found atom held
      exact between _ elsewhere head List.mem_cons_self member within mentioned source

/-- Of formulas that have no atoms in common, what is written is what is meant exactly if no formula
next to an `AND` has several alternatives. -/
theorem holds_linked_iff_guarded {items : List (Combinator × Formula)} (present : items ≠ [])
    (settled : ∀ item ∈ items, item.2.IsSettled) (apart : Apart items) :
    (∀ truth, holds truth (linked items) = holds truth (intended items)) ↔ Guarded items := by
  constructor
  · intro same
    by_contra broken
    obtain ⟨truth, written, meant⟩ := exists_truth_of_not_guarded present settled apart broken
    rw [same, meant] at written
    cases written
  · intro guarded truth
    exact holds_linked_of_guarded present (fun item mem => (settled item mem).full) guarded

end Formula

end SqlDraft
