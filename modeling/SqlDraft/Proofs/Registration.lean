import Mathlib.Data.String.Basic
import SqlDraft.Builder.Desk
import SqlDraft.Proofs.Refusal

/-!
# Registration and held builders

A registry is a table in which the last registration of a name counts: whatever has been asked of a
desk, a name has the kind of the latest registration of it that was accepted, and the names are in
order.  Making a quoter, and offering something else than a kind of quoter, change nothing.

A builder that a desk holds has the quoter that its name stood for when it was made.  Later requests
reach it only through conditions that are added to it, so it is the builder that those conditions
alone would have made of it.
-/

namespace SqlDraft

theorem lookup_cons_eq_ite {α : Type} (key other : String) (value : α)
    (entries : List (String × α)) :
    List.lookup other ((key, value) :: entries) =
      if other = key then some value else entries.lookup other := by
  by_cases same : other = key
  · simp [same]
  · simp [List.lookup_cons, beq_false_of_ne same, same]

namespace Registry

variable (registry : Registry) (name : String) (kind : QuoterKind)

/-- A name that is registered has the kind of its last registration, and other names keep theirs. -/
theorem get?_insert (other : String) :
    (registry.insert name kind).get? other =
      if other = name then some kind else registry.get? other := by
  unfold get?
  induction registry with
  | nil => exact lookup_cons_eq_ite name other kind []
  | cons entry entries ih =>
      obtain ⟨key, held⟩ := entry
      rw [insert]
      by_cases replaced : name = key
      · rw [if_pos replaced, lookup_cons_eq_ite, lookup_cons_eq_ite, replaced]
        split_ifs <;> rfl
      · rw [if_neg replaced]
        by_cases before : name < key
        · rw [if_pos before, lookup_cons_eq_ite]
        · rw [if_neg before, lookup_cons_eq_ite, lookup_cons_eq_ite, ih]
          by_cases same : other = key
          · rw [if_pos same, if_neg (same ▸ Ne.symm replaced), if_pos same]
          · rw [if_neg same, if_neg same]

theorem mem_targets_iff : name ∈ registry.targets ↔ (registry.get? name).isSome = true := by
  rw [targets, get?, List.lookup_isSome_iff, List.mem_map]
  exact exists_congr fun entry => and_congr_right fun _ => eq_comm.trans beq_iff_eq.symm

theorem pairwise_targets_insert {registry : Registry}
    (sorted : registry.targets.Pairwise (· < ·)) :
    (registry.insert name kind).targets.Pairwise (· < ·) := by
  induction registry with
  | nil => exact List.pairwise_singleton _ _
  | cons entry entries ih =>
      obtain ⟨first, rest⟩ := List.pairwise_cons.mp sorted
      rw [insert]
      split_ifs with replaced before
      · rw [replaced]
        exact sorted
      · refine List.pairwise_cons.mpr ⟨?_, sorted⟩
        intro other mem
        rcases List.mem_cons.mp mem with rfl | mem
        · exact before
        · exact before.trans (first other mem)
      · refine List.pairwise_cons.mpr ⟨?_, ih rest⟩
        intro other mem
        have held := (mem_targets_iff (insert name kind entries) other).mp mem
        rw [get?_insert] at held
        split_ifs at held with same
        · rw [same]
          exact lt_of_le_of_ne (not_lt.mp before) (Ne.symm replaced)
        · exact first other ((mem_targets_iff entries other).mpr held)

end Registry

namespace Desk

namespace Request

/-- The name and the kind that a request registers, if what it offers is a kind of quoter. -/
def registration? : Request → Option (String × QuoterKind)
  | register name (.quoter kind) => some (name, kind)
  | _ => none

theorem registration?_eq_some_iff {request : Request} {name : String} {kind : QuoterKind} :
    request.registration? = some (name, kind) ↔ request = .register name (.quoter kind) := by
  cases request with
  | register other candidate => cases candidate <;> simp [registration?]
  | _ => simp [registration?]

/-- The call that a request makes on the builder under a label. -/
def call? (label : String) : Request → Option Call
  | filter held column value operator additive =>
      if held = label then some (.filter column value operator additive) else none
  | _ => none

end Request

variable (desk : Desk)

/-! ### What a request does to the registry -/

/-- The builder that is made for the name of a quoter. -/
def made (name : Value) : Except Failure Builder :=
  (Options.ofFields [("quoter", name)]).bind fun options =>
    Builder.create desk.registry options none

theorem hold_eq (label : String) (name : Value) :
    desk.hold label name =
      (desk.made name).map fun builder => (desk.put label builder, builder) := by
  unfold hold made
  cases Options.ofFields [("quoter", name)] with
  | error failure => rfl
  | ok options =>
      simp only [bind, Except.bind]
      cases Builder.create desk.registry options none <;> rfl

theorem step_hold (label : String) (name : Value) :
    desk.step (.hold label name) =
      match desk.hold label name with
      | .ok (after, builder) => (after, .ok (.held builder.dialect))
      | .error failure => (desk, .error failure) := rfl

variable {desk} in
theorem step_hold_of_made {name : Value} {builder : Builder} (label : String)
    (built : desk.made name = .ok builder) :
    desk.step (.hold label name) = (desk.put label builder, .ok (.held builder.dialect)) := by
  rw [step_hold, hold_eq, built]
  rfl

variable {desk} in
theorem step_hold_of_refused {name : Value} {failure : Failure} (label : String)
    (refused : desk.made name = .error failure) :
    desk.step (.hold label name) = (desk, .error failure) := by
  rw [step_hold, hold_eq, refused]
  rfl

theorem step_hold_eq_held_iff (label : String) (name : Value) (dialect : String) :
    (desk.step (.hold label name)).2 = .ok (.held dialect) ↔
      ∃ builder, desk.made name = .ok builder ∧ builder.dialect = dialect := by
  cases built : desk.made name with
  | error failure => simp [step_hold_of_refused label built]
  | ok builder => simp [step_hold_of_made label built]

theorem step_filter (label : String) (column value operator additive : Value) :
    desk.step (.filter label column value operator additive) =
      match desk.get? label with
      | none => (desk, .ok .nothingHeld)
      | some builder =>
          match addFilter builder column value operator additive with
          | .ok after => (desk.put label after, after.assemble.map .sql)
          | .error failure => (desk, .error failure) := rfl

theorem registry_step (request : Request) :
    (desk.step request).1.registry =
      match request.registration? with
      | some (name, kind) => desk.registry.insert name kind
      | none => desk.registry := by
  cases request with
  | register name candidate => cases candidate <;> rfl
  | create name value => rfl
  | hold label name =>
      cases built : desk.made name with
      | error failure => rw [step_hold_of_refused label built]; rfl
      | ok builder => rw [step_hold_of_made label built]; rfl
  | filter label column value operator additive =>
      rw [step_filter]
      split
      · rfl
      · split <;> rfl

/-- A name has the kind of the latest accepted registration, or the kind that it had before. -/
theorem get?_registry_run (requests : List Request) (name : String) :
    (desk.run requests).registry.get? name =
      ((requests.filterMap Request.registration?).reverse.lookup name).or
        (desk.registry.get? name) := by
  induction requests generalizing desk with
  | nil => rfl
  | cons request requests ih =>
      have unfolded : desk.run (request :: requests) = (desk.step request).1.run requests := rfl
      rw [unfolded, ih, registry_step]
      cases registered : request.registration? with
      | none => rw [List.filterMap_cons_none registered]
      | some registration =>
          rw [List.filterMap_cons_some registered, List.reverse_cons, List.lookup_append,
            Option.or_assoc, Registry.get?_insert, lookup_cons_eq_ite]
          split_ifs <;> rfl

theorem pairwise_targets_run {requests : List Request}
    (sorted : desk.registry.targets.Pairwise (· < ·)) :
    (desk.run requests).registry.targets.Pairwise (· < ·) := by
  induction requests generalizing desk with
  | nil => exact sorted
  | cons request requests ih =>
      refine ih (desk.step request).1 ?_
      rw [registry_step]
      split
      · exact Registry.pairwise_targets_insert _ _ sorted
      · exact sorted

/-! ### What a request does to a held builder -/

theorem get?_put (label other : String) (builder : Builder) :
    (desk.put label builder).get? other =
      if other = label then some builder else desk.get? other := by
  rw [get?, put, lookup_cons_eq_ite]
  by_cases same : other = label
  · rw [if_pos same, if_pos same]
  · rw [if_neg same, if_neg same, get?]
    induction desk.held with
    | nil => rfl
    | cons entry entries ih =>
        obtain ⟨held, kept⟩ := entry
        rw [lookup_cons_eq_ite, ← ih]
        by_cases removed : held = label
        · rw [List.filter_cons_of_neg (by simp [removed]), if_neg (removed ▸ same)]
        · rw [List.filter_cons_of_pos (by simp [removed]), lookup_cons_eq_ite]

/-- A condition that is refused leaves the builder as it was, as the call on it does. -/
theorem getD_addFilter (builder : Builder) (column value operator additive : Value) :
    (addFilter builder column value operator additive).toOption.getD builder =
      builder.apply (.filter column value operator additive) := by
  unfold addFilter
  dsimp only
  cases failed : (builder.effect (.filter column value operator additive)).failure with
  | none => rfl
  | some failure =>
      have same : (builder.effect (.filter column value operator additive)).statement =
          builder.statement :=
        Effect.statement_change (Option.isSome_of_eq_some failed)
      rw [Builder.apply, same]
      rfl

/-- No request makes another builder under a label: whatever asks for one is refused. -/
def Keeps (label : String) : Desk → List Request → Prop
  | _, [] => True
  | desk, request :: requests =>
      (∀ name, request = .hold label name → ∃ failure, (desk.step request).2 = .error failure) ∧
        Keeps label (desk.step request).1 requests

theorem get?_step_hold {label other : String} {name : Value}
    (kept : other = label → ∃ failure, (desk.step (.hold other name)).2 = .error failure) :
    (desk.step (.hold other name)).1.get? label = desk.get? label := by
  cases built : desk.made name with
  | error failure => rw [step_hold_of_refused other built]
  | ok builder =>
      rw [step_hold_of_made other built] at kept ⊢
      have apart : label ≠ other := by
        rintro rfl
        obtain ⟨failure, refused⟩ := kept rfl
        cases refused
      exact (desk.get?_put other label builder).trans (if_neg apart)

theorem get?_step_filter (label other : String) (column value operator additive : Value) :
    (desk.step (.filter other column value operator additive)).1.get? label =
      if label = other then
        (desk.get? label).map fun builder =>
          builder.apply (.filter column value operator additive)
      else desk.get? label := by
  rw [step_filter]
  cases found : desk.get? other with
  | none =>
      split_ifs with same
      · rw [same, found]
        rfl
      · rfl
  | some builder =>
      have applied := getD_addFilter builder column value operator additive
      dsimp only
      cases added : addFilter builder column value operator additive with
      | error failure =>
          rw [added] at applied
          split_ifs with same
          · rw [same, found, Option.map_some, ← applied]
            rfl
          · rfl
      | ok after =>
          rw [added] at applied
          rw [get?_put]
          split_ifs with same
          · rw [same, found, Option.map_some, ← applied]
            rfl
          · rfl

/-- A request that makes no builder under a label reaches the builder there through its call. -/
theorem get?_step {label : String} {request : Request}
    (kept : ∀ name, request = .hold label name →
      ∃ failure, (desk.step request).2 = .error failure) :
    (desk.step request).1.get? label =
      (desk.get? label).map fun builder => builder.run (request.call? label).toList := by
  have unreached : (desk.get? label).map (fun builder => builder.run []) = desk.get? label :=
    Option.map_id'
  cases request with
  | register name candidate => cases candidate <;> exact unreached.symm
  | create name value => exact unreached.symm
  | hold other name =>
      refine (desk.get?_step_hold ?_).trans unreached.symm
      rintro rfl
      exact kept name rfl
  | filter other column value operator additive =>
      rw [get?_step_filter, Request.call?]
      by_cases same : label = other
      · rw [if_pos same, if_pos same.symm]
        rfl
      · rw [if_neg same, if_neg (Ne.symm same)]
        exact unreached.symm

/-- Requests that make no builder under a label leave there what their calls make of the builder. -/
theorem get?_run {label : String} {requests : List Request} (kept : Keeps label desk requests) :
    (desk.run requests).get? label =
      (desk.get? label).map fun builder =>
        builder.run (requests.filterMap (Request.call? label)) := by
  induction requests generalizing desk with
  | nil => exact Option.map_id'.symm
  | cons request requests ih =>
      have unfolded : desk.run (request :: requests) = (desk.step request).1.run requests := rfl
      rw [unfolded, ih _ kept.2, get?_step _ kept.1, Option.map_map]
      congr 1
      funext builder
      cases called : request.call? label with
      | none => rw [List.filterMap_cons_none called]; rfl
      | some call => rw [List.filterMap_cons_some called]; rfl

/-! ### What is made from a name -/

theorem ofFields_quoter (name : String) :
    Options.ofFields [("quoter", .text name)] =
      if Text.allBlank name then .error (.invalid .options [⟨"quoter", .blank⟩])
      else .ok { Options.default with quoter := name } := by
  have given : Field.check Field.readSetting "quoter" (.text name) =
      if Text.allBlank name then .error [⟨"quoter", .blank⟩] else .ok name := by
    change (if Text.allBlank name then _ else _ : Except FaultCause String).mapError _ = _
    split_ifs <;> rfl
  change ((((Checked.apply (.ok Options.mk)
      (Field.check Field.readSetting "quoter" (.text name))).apply (.ok "?")).apply
      (.ok "=")).apply (.ok "INNER") |>.except []).outcome .options = _
  rw [given]
  split_ifs <;> rfl

/-- A new builder with the quoter that its options name. -/
def fresh (quoter : Quoter) (name : String) : Builder where
  quoter := quoter
  options := { Options.default with quoter := name }

theorem made_text (name : String) :
    desk.made (.text name) =
      if Text.allBlank name then .error (.invalid .options [⟨"quoter", .blank⟩])
      else (desk.registry.create (.text name)).map fun quoter => fresh quoter name := by
  rw [made, ofFields_quoter]
  split_ifs <;> rfl

/-! ### Histories of requests -/

/-- The kind in the latest registration of a name, where those at the start come first. -/
def latest? (requests : List Request) (name : String) : Option QuoterKind :=
  ((requests.filterMap Request.registration?).reverse.lookup name).or
    (Registry.initial.get? name)

theorem isSome_latest?_iff (requests : List Request) (name : String) :
    (latest? requests name).isSome = true ↔
      name = "ansi" ∨ name = "mysql" ∨
        ∃ kind, Request.register name (.quoter kind) ∈ requests := by
  have start : (Registry.initial.get? name).isSome = true ↔ name = "ansi" ∨ name = "mysql" := by
    rw [← Registry.mem_targets_iff]
    simp [Registry.targets, Registry.initial]
  have registered : (((requests.filterMap Request.registration?).reverse.lookup name).isSome =
      true) ↔ ∃ kind, Request.register name (.quoter kind) ∈ requests := by
    rw [List.lookup_isSome_iff]
    constructor
    · rintro ⟨⟨other, kind⟩, mem, same⟩
      obtain rfl := beq_iff_eq.mp same
      obtain ⟨request, asked, made⟩ := List.mem_filterMap.mp (List.mem_reverse.mp mem)
      exact ⟨kind, Request.registration?_eq_some_iff.mp made ▸ asked⟩
    · rintro ⟨kind, mem⟩
      refine ⟨(name, kind), List.mem_reverse.mpr (List.mem_filterMap.mpr ⟨_, mem, rfl⟩), ?_⟩
      exact beq_self_eq_true name
  rw [latest?, Option.isSome_or, Bool.or_eq_true, start, registered, or_comm, or_assoc]

/-- A desk agrees with the requests that have been made of it. -/
structure Reflects (requests : List Request) : Prop where
  /-- The names strictly increase in the order of their code points. -/
  sorted : desk.registry.targets.Pairwise (· < ·)
  /-- The names are the two at the start and those of the accepted registrations. -/
  mem_targets : ∀ name, name ∈ desk.registry.targets ↔
    name = "ansi" ∨ name = "mysql" ∨ ∃ kind, Request.register name (.quoter kind) ∈ requests
  /-- A registration is accepted exactly if a kind of quoter is offered. -/
  accepts : ∀ name candidate, (desk.step (.register name candidate)).2 = .ok .registered ↔
    ∃ kind, candidate = .quoter kind
  /-- Anything else is refused under its name, and nothing changes. -/
  rejects : ∀ name candidate, (∀ kind, candidate ≠ .quoter kind) →
    ∃ error : QuoterError, error.name = .text name ∧
      desk.step (.register name candidate) = (desk, .error (.quoter error))
  /-- A name is unknown exactly if no registration of it has been accepted. -/
  unknown : ∀ name, (∃ error, desk.registry.create (.text name) = .error (.quoter error)) ↔
    latest? requests name = none
  /-- An unknown name is refused under that name. -/
  unknown_name : ∀ name error, desk.registry.create (.text name) = .error (.quoter error) →
    error.name = .text name
  /-- The quoter of a known name is the one that the latest kind makes. -/
  ready : ∀ name quoter, latest? requests name = some (.ready quoter) →
    desk.registry.create (.text name) = .ok quoter
  /-- No quoter is made if the latest kind needs arguments. -/
  incomplete : ∀ name reason, latest? requests name = some (.incomplete reason) →
    desk.registry.create (.text name) = .error (.argumentsMissing reason)
  /-- Making a quoter changes nothing, whether it is made or not. -/
  create : ∀ name value, (desk.step (.create name value)).1 = desk

theorem get?_registry_run_new (requests : List Request) (name : String) :
    (run {} requests).registry.get? name = latest? requests name :=
  get?_registry_run {} requests name

theorem create_text (requests : List Request) (name : String) :
    (run {} requests).registry.create (.text name) =
      match latest? requests name with
      | some kind => kind.create
      | none => .error (.quoter (.unknown (.text name) (run {} requests).registry.targets)) := by
  rw [← get?_registry_run_new]
  rfl

/-- After any requests a desk agrees with them. -/
theorem reflects_run (requests : List Request) : (run {} requests).Reflects requests where
  sorted := pairwise_targets_run {} (by decide)
  mem_targets name := by
    rw [Registry.mem_targets_iff, get?_registry_run_new, isSome_latest?_iff]
  accepts name candidate := by
    cases candidate with
    | quoter kind => exact iff_of_true rfl ⟨kind, rfl⟩
    | other shown => exact iff_of_false (fun accepted => by cases accepted) (by simp)
  rejects name candidate other := by
    cases candidate with
    | quoter kind => exact absurd rfl (other kind)
    | other shown => exact ⟨.notQuoter shown (.text name), rfl, rfl⟩
  unknown name := by
    rw [create_text]
    rcases latest? requests name with _ | quoter | reason
    · exact iff_of_true ⟨_, rfl⟩ rfl
    · simp [QuoterKind.create]
    · simp [QuoterKind.create]
  unknown_name name error refused := by
    rw [create_text] at refused
    generalize latest? requests name = latest at refused
    rcases latest with _ | quoter | reason
    · obtain rfl := Failure.quoter.inj (Except.error.inj refused)
      rfl
    · cases refused
    · cases refused
  ready name quoter made := by rw [create_text, made]; rfl
  incomplete name reason made := by rw [create_text, made]; rfl
  create name value := rfl

theorem made_run_eq_ok_iff (requests : List Request) (name : String) (builder : Builder) :
    (run {} requests).made (.text name) = .ok builder ↔
      Text.allBlank name = false ∧
        ∃ quoter, latest? requests name = some (.ready quoter) ∧ fresh quoter name = builder := by
  rw [made_text]
  cases blank : Text.allBlank name with
  | true => simp
  | false =>
      rw [create_text]
      rcases latest? requests name with _ | quoter | reason
      · simp [Except.map]
      · simp [QuoterKind.create, Except.map]
      · simp [QuoterKind.create, Except.map]

/-- After any requests the registry is the table of the accepted registrations, where the latest one
of a name counts.  A builder is made from a name that is not blank exactly if the latest kind is
ready, and from then on it is what the conditions that are added to it make of its first quoter:
neither the registrations that follow nor other builders have a part in it. -/
theorem isolated_run (requests : List Request) :
    let desk := run {} requests
    desk.Reflects requests ∧
    (∀ label name dialect, (desk.step (.hold label (.text name))).2 = .ok (.held dialect) ↔
      Text.allBlank name = false ∧
        ∃ quoter, latest? requests name = some (.ready quoter) ∧ quoter.dialect = dialect) ∧
    ∀ label name quoter later, Text.allBlank name = false →
      latest? requests name = some (.ready quoter) →
      Keeps label (desk.step (.hold label (.text name))).1 later →
      (run {} (requests ++ .hold label (.text name) :: later)).get? label =
        some ((fresh quoter name).run (later.filterMap (Request.call? label))) := by
  intro desk
  refine ⟨reflects_run requests, ?_, ?_⟩
  · intro label name dialect
    rw [step_hold_eq_held_iff]
    constructor
    · rintro ⟨builder, built, same⟩
      obtain ⟨blank, quoter, latest, rfl⟩ := (made_run_eq_ok_iff requests name builder).mp built
      exact ⟨blank, quoter, latest, same⟩
    · rintro ⟨blank, quoter, latest, same⟩
      exact ⟨_, (made_run_eq_ok_iff requests name _).mpr ⟨blank, quoter, latest, rfl⟩, same⟩
  · intro label name quoter later blank latest kept
    have held : (desk.step (.hold label (.text name))).1.get? label =
        some (fresh quoter name) := by
      have built := (made_run_eq_ok_iff requests name _).mpr ⟨blank, quoter, latest, rfl⟩
      rw [step_hold_of_made label built]
      exact (desk.get?_put label label _).trans (if_pos rfl)
    have unfolded : run {} (requests ++ .hold label (.text name) :: later) =
        (desk.step (.hold label (.text name))).1.run later := by
      simp [run, desk]
    rw [unfolded, get?_run _ kept, held]
    rfl

/-- A name is registered, and something that is no kind of quoter is offered for it. -/
def registeringRequests : List Request :=
  [.register "house" (.quoter .oracle), .register "house" (.other "<class 'int'>")]

/-- The name is registered again, a name is asked for that is not registered, and conditions are
added to a builder from before and to a new one. -/
def reregisteringRequests : List Request :=
  [.register "house" (.quoter .mysql), .hold "old" (.text "shed"), .hold "new" (.text "house"),
    .filter "old" (.text "a") (.text "it's"), .filter "new" (.text "b") (.text "it's")]

/-- The old builder keeps the first kind, and the name stands for the second. -/
theorem isolated_reregisteringRequests :
    let requests := registeringRequests ++ .hold "old" (.text "house") :: reregisteringRequests
    ((run {} requests).get? "old").map Builder.assemble = some (.ok "WHERE a = 'it''s'") ∧
      (run {} requests).registry.create (.text "house") = .ok .mysql ∧
      (run {} requests).registry.targets = ["ansi", "house", "mysql"] := by
  intro requests
  obtain ⟨-, -, isolated⟩ := isolated_run registeringRequests
  have kept : Keeps "old" ((run {} registeringRequests).step (.hold "old" (.text "house"))).1
      reregisteringRequests := by
    simp only [reregisteringRequests, Keeps, reduceCtorEq, false_imp_iff, implies_true, true_and,
      and_true]
    -- The unregistered name is refused, and the other builder has another label.
    exact ⟨fun _ _ => ⟨_, rfl⟩, fun name other => absurd other (by simp)⟩
  have old := isolated "old" "house" .oracle reregisteringRequests (by decide) rfl kept
  obtain ⟨reflects, -, -⟩ := isolated_run requests
  exact ⟨by rw [old]; rfl, reflects.ready "house" .mysql rfl, rfl⟩

end Desk
end SqlDraft
