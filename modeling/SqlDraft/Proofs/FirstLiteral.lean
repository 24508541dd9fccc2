import SqlDraft.Proofs.Literal

/-!
# The literal at the start of a text

An engine that expects a literal reads one from the start of a text and leaves the text behind it
unread.  Where the literal ends is decided one character later, because a second quote would have
been part of it.  What a quoter writes is such a literal whatever follows, unless another quote
does.

A reader cannot find more than is written: every character of the content takes a character of the
text, and every quote in it takes two.
-/

namespace SqlDraft
namespace Engine

variable (engine : Engine)

/-- Read on to the end of the literal in which the reader stands: its content, and the text behind
it. -/
def finish : Mode → List Char → Option (String × List Char)
  | .closing content, [] => some (String.ofList content, [])
  | _, [] => none
  | mode, c :: rest =>
      match engine.read ⟨[], mode⟩ c with
      | ⟨[content], _⟩ => some (content, c :: rest)
      | ⟨_, next⟩ => finish next rest

/-- The content of the literal at the start of a text, and the text behind it. -/
def literal? (text : String) : Option (String × String) :=
  match text.toList with
  | '\'' :: rest =>
      (engine.finish (.inside []) rest).map fun (content, behind) => (content, String.ofList behind)
  | _ => none

variable {engine} {mode next : Mode}

theorem finish_cons {c : Char} {rest : List Char} (goes : engine.read ⟨[], mode⟩ c = ⟨[], next⟩) :
    engine.finish mode (c :: rest) = engine.finish next rest := by
  simp [finish, goes]

theorem finish_append {text rest : List Char}
    (goes : engine.readFrom ⟨[], mode⟩ (String.ofList text) = ⟨[], next⟩) :
    engine.finish mode (text ++ rest) = engine.finish next rest := by
  induction text generalizing mode with
  | nil =>
      obtain rfl : mode = next := by simpa using goes
      rfl
  | cons c text ih =>
      have unfolded : engine.readFrom ⟨[], mode⟩ (String.ofList (c :: text)) =
          engine.readFrom (engine.read ⟨[], mode⟩ c) (String.ofList text) := by
        simp [readFrom]
      rw [unfolded] at goes
      rcases first : engine.read ⟨[], mode⟩ c with ⟨literals, middle⟩
      -- No literal has ended behind the first character, because none has at the end.
      have earlier := engine.readFrom_prepend literals [] middle (String.ofList text)
      rw [List.append_nil, ← first, goes] at earlier
      obtain rfl : literals = [] := by
        have ended := congrArg Reading.literals earlier
        exact (List.append_eq_nil_iff.mp ended.symm).1
      rw [List.cons_append, finish_cons first]
      exact ih (by rw [← first]; exact goes)

theorem finish_quote (content rest : List Char) :
    engine.finish (.inside content) ('\'' :: rest) = engine.finish (.closing content) rest :=
  finish_cons (by simp [read])

theorem finish_escaping (content : List Char) (c : Char) (rest : List Char) :
    engine.finish (.escaping content) (c :: rest) =
      engine.finish (.inside (content ++ unescape c)) rest :=
  finish_cons rfl

/-- A literal ends in front of anything but a quote. -/
theorem finish_closing {content rest : List Char} (apart : rest.head? ≠ some '\'') :
    engine.finish (.closing content) rest = some (String.ofList content, rest) := by
  cases rest with
  | nil => rfl
  | cons c rest =>
      have other : c ≠ '\'' := by simpa using apart
      simp [finish, read, other]

theorem literal?_enclose_append (escape : Char → List Char) (content rest : String) :
    engine.literal? (Quoter.enclose escape content ++ rest) =
      (engine.finish (.inside []) (content.toList.flatMap escape ++ '\'' :: rest.toList)).map
        fun (content, behind) => (content, String.ofList behind) := by
  simp [literal?, Quoter.enclose]

/-- What a quoter writes is read back as one literal, and what follows is left. -/
theorem literal?_quote_append (content : String) {rest : String}
    (apart : rest.toList.head? ≠ some '\'') :
    engine.literal? (engine.quote content ++ rest) = some (content, rest) := by
  rw [quote, literal?_enclose_append,
    finish_append (readFrom_flatMap_escape [] [] content.toList), List.nil_append, finish_quote,
    finish_closing apart]
  simp

example : mysql.literal? "'it\\'s' OR 'that'" = some ("it's", " OR 'that'") := by decide

end Engine

/-- How many characters it takes at least to write a content: a quote takes two. -/
def writtenLength (content : List Char) : Nat := content.length + content.count '\''

@[simp]
theorem writtenLength_append (left right : List Char) :
    writtenLength (left ++ right) = writtenLength left + writtenLength right := by
  simp only [writtenLength, List.length_append, List.count_append]
  omega

theorem writtenLength_unescape_le (c : Char) : writtenLength (unescape c) ≤ 2 := by
  unfold unescape
  split_ifs with _ _ _ _ _ _ wildcard
  all_goals try decide
  · obtain rfl | rfl := wildcard <;> decide
  · have atMost : List.count '\'' [c] ≤ 1 := List.count_le_length
    simp only [writtenLength, List.length_singleton]
    omega

namespace Mode

/-- The content that a reader knows. -/
def content : Mode → List Char
  | outside => []
  | inside content | closing content | escaping content => content

/-- How many characters a reader has read at least since its literal started. -/
def spent : Mode → Nat
  | outside => 0
  | inside content => writtenLength content
  | closing content | escaping content => writtenLength content + 1

end Mode

namespace Engine

variable {engine : Engine}

/-- One character either leaves the literal open, where it adds to the content no more than it can
stand for, or it stands behind the literal. -/
theorem read_open_or_behind (engine : Engine) (mode : Mode) (c : Char) :
    (∃ next, engine.read ⟨[], mode⟩ c = ⟨[], next⟩ ∧ mode.content <+: next.content ∧
      next.spent ≤ mode.spent + 1) ∨
    ∃ content, mode = .closing content ∧ c ≠ '\'' := by
  cases mode with
  | outside =>
      refine .inl ⟨_, rfl, List.nil_prefix, ?_⟩
      split <;> simp [Mode.spent, writtenLength]
  | inside content =>
      refine .inl ⟨_, rfl, ?_⟩
      split_ifs with quote escape
      · simp [Mode.content, Mode.spent]
      · simp [Mode.content, Mode.spent]
      · have single : writtenLength [c] = 1 := by simp [writtenLength, quote]
        simp [Mode.content, Mode.spent, single]
  | closing content =>
      by_cases quote : c = '\''
      · have pair : writtenLength ['\''] = 2 := by decide
        refine .inl ⟨.inside (content ++ ['\'']), by simp [read, quote], ?_⟩
        simp [Mode.content, Mode.spent, pair]
      · exact .inr ⟨content, rfl, quote⟩
  | escaping content =>
      have atMost := writtenLength_unescape_le c
      refine .inl ⟨_, rfl, List.prefix_append _ _, ?_⟩
      simp only [Mode.spent, writtenLength_append]
      omega

/-- What a reader finds starts with what it knows, and it is written in the text between. -/
theorem prefix_and_spent_of_finish {mode : Mode} {text behind : List Char} {found : String}
    (finished : engine.finish mode text = some (found, behind)) :
    mode.content <+: found.toList ∧
      writtenLength found.toList + 1 + behind.length ≤ mode.spent + text.length := by
  induction text generalizing mode with
  | nil =>
      cases mode with
      | closing content =>
          obtain ⟨rfl, rfl⟩ : String.ofList content = found ∧ [] = behind := by
            simpa [finish] using finished
          simp [Mode.content, Mode.spent]
      | _ => simp [finish] at finished
  | cons c text ih =>
      rcases read_open_or_behind engine mode c with
        ⟨next, goes, known, spent⟩ | ⟨content, rfl, other⟩
      · rw [finish_cons goes] at finished
        obtain ⟨starts, written⟩ := ih finished
        refine ⟨known.trans starts, ?_⟩
        rw [List.length_cons]
        omega
      · rw [finish_closing (by simpa using other)] at finished
        obtain ⟨rfl, rfl⟩ : String.ofList content = found ∧ c :: text = behind := by
          simpa using finished
        simp [Mode.content, Mode.spent]

end Engine
end SqlDraft
