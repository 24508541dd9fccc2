import SqlDraft.Journal.Basic
import SqlDraft.Proofs.Typed

/-!
# Sessions with a builder

In a session a builder is called and asked for its text in any order.  With arguments of the
expected types every text can be had, a call is refused only because of the kind, and the journal
tells the refusals and the texts of the session, each once and in order.
-/

namespace SqlDraft

/-- What a builder is asked in a session. -/
inductive Turn
  | call (call : Call)
  | assemble

/-- What comes of a turn. -/
inductive Reply
  | accepted
  | assembled (sql : String)
  | failed (failure : Failure)

/-- The message by which the journal tells a reply, if it does. -/
def Reply.message? : Reply → Option String
  | failed (.statement (.alreadySet current requested)) =>
      some ("Rejected kind " ++ requested ++ ": already " ++ current)
  | failed (.statement (.notAllowed operation kind)) =>
      some ("Rejected " ++ operation ++ "() for kind " ++ kind.getD "None")
  | assembled sql => some ("Assembled SQL: " ++ sql)
  | _ => none

/-- The debugging entry of a builder with a given message. -/
def Journal.debugEntry (message : String) : Journal.Entry := ⟨builderLogger, debug, message⟩

/-- The arguments in a turn have the expected types. -/
def Turn.IsTyped : Turn → Prop
  | .call made => made.IsTyped
  | .assemble => True

namespace Builder

/-- The builder after a turn. -/
def after (builder : Builder) : Turn → Builder
  | .call call => builder.apply call
  | .assemble => builder

/-- What comes of a turn. -/
def reply (builder : Builder) : Turn → Reply
  | .call call => (builder.effect call).failure.elim .accepted .failed
  | .assemble =>
      match builder.assemble with
      | .ok sql => .assembled sql
      | .error failure => .failed failure

/-- What is noted in a turn. -/
def notes (builder : Builder) : Turn → List Note
  | .call call => (builder.effect call).notes
  | .assemble => builder.assemblyNotes

/-- The builder after a session. -/
def afterAll (builder : Builder) (turns : List Turn) : Builder := turns.foldl after builder

/-- What comes of the turns of a session. -/
def replies (builder : Builder) : List Turn → List Reply
  | [] => []
  | turn :: turns => builder.reply turn :: (builder.after turn).replies turns

/-- What is noted in a session. -/
def allNotes (builder : Builder) : List Turn → List Note
  | [] => []
  | turn :: turns => builder.notes turn ++ (builder.after turn).allNotes turns

end Builder

theorem Effect.notes_change {α : Type} (statement : Statement) (value : Except Failure α)
    (update : α → Statement) : (change statement value update).notes = [] := by
  cases value <;> rfl

namespace Statement

variable (quoter : Quoter) (options : Options) {statement : Statement} {call : Call}

theorem notes_step_of_accepted (accepted : (statement.step quoter options call).failure = none) :
    (statement.step quoter options call).notes = [] := by
  cases call with
  | setKind value =>
      cases named : kindOf? value with
      | none =>
          rw [step, setKind_of_unknown named]
          rfl
      | some requested =>
          cases set : statement.kind with
          | none =>
              rw [step, setKind_of_unset named set]
              rfl
          | some current =>
              rw [step, setKind_of_set named set] at accepted
              cases accepted
  | select fields =>
      cases set : statement.kind with
      | none =>
          rw [step, select_of_unset fields set]
          split
          · exact Effect.notes_change _ _ _
          · rfl
      | some current =>
          rw [step, select_of_set fields set] at accepted
          cases accepted
  | values values =>
      rw [step, setValues] at accepted ⊢
      split at accepted
      · rw [if_pos (by assumption)]
        exact Effect.notes_change _ _ _
      · cases accepted
  | table | groupBy | limit | offset => rfl
  | join | filter | having | orderBy => exact Effect.notes_change _ _ _

/-- The notes of a refused call with arguments of the expected types say why it is refused. -/
theorem notes_step_of_refuses {failure : Failure} (refuses : statement.Refuses call failure) :
    (statement.step quoter options call).notes.map Note.message =
      (Reply.failed failure).message?.toList := by
  rcases refuses with ⟨requests, set⟩ | unknown | other
  · rw [step_of_requests quoter options requests set]
    rfl
  · rename_i value
    have named : kindOf? value = none :=
      Option.eq_none_iff_forall_ne_some.mpr fun kind named =>
        unknown kind (kindOf?_eq_some_iff.mp named)
    rw [step, setKind_of_unknown named]
    rfl
  · rw [step, setValues, if_neg other]
    cases statement.kind <;> rfl

end Statement

/-- What a run of calls with arguments of the expected types leads to can be rendered. -/
theorem Statement.IsTyped.exists_assemble {statement : Statement} {quoter : Quoter}
    {quote : String → String} (typed : statement.IsTyped) (coherent : statement.Coherent)
    (computes : quoter.Computes quote) : ∃ sql, statement.assemble quoter = .ok sql := by
  cases rendered : statement.assemble quoter with
  | ok sql => exact ⟨sql, rfl⟩
  | error failure =>
      have unrenderable :=
        (exists_assemble_error_iff coherent computes).mp ⟨failure, rendered⟩
      exact absurd unrenderable typed.not_unrenderable

namespace Builder

/-- What every turn with arguments of the expected types preserves. -/
structure IsSound (quoter : Quoter) (builder : Builder) : Prop where
  /-- The quoter is for the lifetime. -/
  quoter : builder.quoter = quoter
  /-- The kind lets everything through that is selected or assigned. -/
  coherent : builder.statement.Coherent
  /-- Selected fields and assigned columns are texts. -/
  typed : builder.statement.IsTyped

variable {quoter : Quoter} {quote : String → String} {builder : Builder}

theorem IsSound.after (sound : builder.IsSound quoter) {turn : Turn} (typed : turn.IsTyped) :
    (builder.after turn).IsSound quoter := by
  cases turn with
  | call made =>
      exact ⟨sound.quoter, Statement.coherent_step sound.coherent _ _ made,
        Statement.isTyped_step sound.typed _ _ typed⟩
  | assemble => exact sound

theorem IsSound.afterAll (sound : builder.IsSound quoter) {turns : List Turn}
    (typed : ∀ turn ∈ turns, turn.IsTyped) : (builder.afterAll turns).IsSound quoter := by
  induction turns generalizing builder with
  | nil => exact sound
  | cons turn turns ih =>
      obtain ⟨first, rest⟩ := List.forall_mem_cons.mp typed
      exact ih (sound.after first) rest

theorem IsSound.exists_assemble (sound : builder.IsSound quoter)
    (computes : quoter.Computes quote) : ∃ sql, builder.assemble = .ok sql := by
  rw [assemble, sound.quoter]
  exact sound.typed.exists_assemble sound.coherent computes

theorem IsSound.failure_effect_eq_some_iff (sound : builder.IsSound quoter)
    (computes : quoter.Computes quote) {call : Call} (typed : call.IsTyped) (failure : Failure) :
    (builder.effect call).failure = some failure ↔ builder.statement.Refuses call failure := by
  rw [effect, sound.quoter]
  exact Statement.failure_step_eq_some_iff computes builder.options typed failure

theorem IsSound.notes (sound : builder.IsSound quoter) (computes : quoter.Computes quote)
    {turn : Turn} (typed : turn.IsTyped) :
    (builder.notes turn).map Note.message = (builder.reply turn).message?.toList := by
  cases turn with
  | call made =>
      rw [Builder.notes, reply]
      cases refused : (builder.effect made).failure with
      | none =>
          rw [effect] at refused ⊢
          rw [Statement.notes_step_of_accepted _ _ refused]
          rfl
      | some failure =>
          have refuses := (sound.failure_effect_eq_some_iff computes typed failure).mp refused
          exact Statement.notes_step_of_refuses _ _ refuses
  | assemble =>
      obtain ⟨sql, assembled⟩ := sound.exists_assemble computes
      rw [Builder.notes, assemblyNotes, reply, assembled]
      rfl

theorem IsSound.allNotes (sound : builder.IsSound quoter) (computes : quoter.Computes quote)
    {turns : List Turn} (typed : ∀ turn ∈ turns, turn.IsTyped) :
    (builder.allNotes turns).map Note.message =
      (builder.replies turns).filterMap Reply.message? := by
  induction turns generalizing builder with
  | nil => rfl
  | cons turn turns ih =>
      obtain ⟨first, rest⟩ := List.forall_mem_cons.mp typed
      rw [Builder.allNotes, List.map_append, sound.notes computes first,
        ih (sound.after first) rest, replies, List.filterMap_cons]
      cases (builder.reply turn).message? <;> rfl

theorem isSound_new (quoter : Quoter) (options : Options) :
    ({ quoter, options } : Builder).IsSound quoter :=
  ⟨rfl, Statement.coherent_empty, Statement.isTyped_empty⟩

/-- After a session with arguments of the expected types, a call with such arguments is refused
exactly if it asks for a kind while one is set, or for a kind that does not exist, or assigns
columns that the kind does not take.  The text can always be had.  What the builder writes into the
journal in the session tells, in order, every refusal because of a kind that is set, every refusal
to assign columns, and every text, each once, and nothing else. -/
theorem session_replies (computes : quoter.Computes quote) (options : Options) {turns : List Turn}
    (typed : ∀ turn ∈ turns, turn.IsTyped) :
    let fresh : Builder := { quoter, options }
    let builder := fresh.afterAll turns
    (∀ call failure, call.IsTyped →
      ((builder.effect call).failure = some failure ↔ builder.statement.Refuses call failure)) ∧
    (∃ sql, builder.assemble = .ok sql) ∧
    (fresh.allNotes turns).map Journal.entryOf =
      ((fresh.replies turns).filterMap Reply.message?).map Journal.debugEntry := by
  intro fresh builder
  have new : fresh.IsSound quoter := isSound_new quoter options
  have sound : builder.IsSound quoter := new.afterAll typed
  refine ⟨?_, sound.exists_assemble computes, ?_⟩
  · exact fun call failure expected => sound.failure_effect_eq_some_iff computes expected failure
  · rw [← new.allNotes computes typed, List.map_map]
    rfl

end Builder

/-- Columns are assigned too early, the kind is set twice and once by a name that is not one, and
the text is asked for twice. -/
def refusedTurns : List Turn :=
  [.call (.values (.dict [])), .call .delete, .assemble, .call (.setKind (.text "MERGE")),
    .call (.select .null), .call (.table (.text "t")), .assemble]

/-- Columns cannot be assigned in the deletion that is reached, and the journal has four entries. -/
theorem session_refusedTurns :
    let fresh : Builder := { quoter := .ansi, options := .default }
    let builder := fresh.afterAll refusedTurns
    (∀ turn ∈ refusedTurns, turn.IsTyped) ∧
    (builder.effect (.values (.dict []))).failure =
      some (.statement (.notAllowed "values" (some "DELETE"))) ∧
    ((fresh.allNotes refusedTurns).map Journal.entryOf).map Journal.Entry.message =
      ["Rejected values() for kind None", "Assembled SQL: DELETE FROM",
        "Rejected kind SELECT: already DELETE", "Assembled SQL: DELETE FROM t"] := by
  intro fresh builder
  have typed : ∀ turn ∈ refusedTurns, turn.IsTyped := by
    simp [refusedTurns, Turn.IsTyped, Call.IsTyped, Call.delete, Value.isText, Value.asText?,
      Entries.keys]
  have computes : Quoter.ansi.Computes (Quoter.enclose Quoter.escapeQuote) :=
    Quoter.computes_ofFunction _ _
  obtain ⟨refuses, -, told⟩ := Builder.session_replies computes .default typed
  have empty : (Call.values (.dict [])).IsTyped := ⟨[], rfl, List.forall_mem_nil _⟩
  refine ⟨typed, (refuses _ _ empty).mpr (.valuesNotAllowed Bool.false_ne_true), ?_⟩
  rw [told]
  decide +kernel

end SqlDraft
