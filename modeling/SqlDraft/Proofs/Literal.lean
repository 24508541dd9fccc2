import Mathlib.Data.List.Induction
import Mathlib.Data.List.TakeWhile
import Mathlib.Tactic.SplitIfs
import SqlDraft.Proofs.Template
import SqlDraft.Text.Blank

/-!
# Reading string literals

An engine reads a text from the left.  A literal starts at a single quote.  Inside it a doubled
quote is one quote, MySQL reads the backslash as an escape, and a lone quote ends the literal.
Reading is one step for each character, so a text is read by reading its parts one after the other,
and what a quoter writes is read back as one literal with the quoted content.
-/

namespace SqlDraft

/-- An engine for whose literals there is a quoter. -/
inductive Engine
  | standard
  | mysql
deriving DecidableEq, Repr

namespace Engine

/-- The characters that are written for a character of a literal. -/
def escape : Engine → Char → List Char
  | standard => Quoter.escapeQuote
  | mysql => Quoter.escapeBackslash

/-- The literal for a text. -/
def quote (engine : Engine) (content : String) : String := Quoter.enclose engine.escape content

/-- The quoter that writes literals of the engine. -/
def quoter : Engine → Quoter
  | standard => .ansi
  | mysql => .mysql

theorem computes_quoter (engine : Engine) : engine.quoter.Computes engine.quote := by
  cases engine <;> exact Quoter.computes_ofFunction _ _

/-- Inside a literal the character decides about the meaning of the next one. -/
def isEscape : Engine → Char → Bool
  | standard, _ => false
  | mysql, c => c == '\\'

end Engine

/-- What a character behind a backslash stands for.  A backslash in front of a wildcard stays, and
in front of a character without a meaning of its own it is dropped. -/
def unescape (c : Char) : List Char :=
  if c = '0' then ['\x00']
  else if c = 'b' then ['\x08']
  else if c = 'n' then ['\n']
  else if c = 'r' then ['\r']
  else if c = 't' then ['\t']
  else if c = 'Z' then ['\x1a']
  else if c = '%' ∨ c = '_' then ['\\', c]
  else [c]

/-- Where in a text a reader stands.  Inside a literal it knows the content read so far. -/
inductive Mode
  | outside
  | inside (content : List Char)
  /-- Behind a quote that ends a literal unless another quote follows. -/
  | closing (content : List Char)
  /-- Behind an escape. -/
  | escaping (content : List Char)
deriving DecidableEq, Repr

/-- What a reader has found. -/
structure Reading where
  /-- The contents of the literals that have ended. -/
  literals : List String := []
  /-- The place of the reader. -/
  mode : Mode := .outside
deriving DecidableEq, Repr

/-- The contents of all literals, if the text may end here. -/
def Reading.literals? : Reading → Option (List String)
  | ⟨literals, .outside⟩ => some literals
  | ⟨literals, .closing content⟩ => some (literals ++ [String.ofList content])
  | ⟨_, .inside _⟩ | ⟨_, .escaping _⟩ => none

namespace Engine

variable (engine : Engine)

/-- Read one character. -/
def read (reading : Reading) (c : Char) : Reading :=
  match reading.mode with
  | .outside => { reading with mode := if c = '\'' then .inside [] else .outside }
  | .inside content =>
      { reading with
        mode :=
          if c = '\'' then .closing content
          else if engine.isEscape c then .escaping content
          else .inside (content ++ [c]) }
  | .closing content =>
      if c = '\'' then { reading with mode := .inside (content ++ ['\'']) }
      else ⟨reading.literals ++ [String.ofList content], .outside⟩
  | .escaping content => { reading with mode := .inside (content ++ unescape c) }

/-- Read a text from a given place. -/
def readFrom (reading : Reading) (text : String) : Reading :=
  text.toList.foldl engine.read reading

/-- The contents of the literals of a text; none if a literal of the text does not end. -/
def literals? (text : String) : Option (List String) := (engine.readFrom {} text).literals?

@[simp]
theorem readFrom_empty (reading : Reading) : engine.readFrom reading "" = reading := rfl

@[simp]
theorem readFrom_append (reading : Reading) (left right : String) :
    engine.readFrom reading (left ++ right) =
      engine.readFrom (engine.readFrom reading left) right := by
  simp [readFrom]

/-- Earlier literals stay in front and do not change what is read. -/
theorem read_prepend (earlier literals : List String) (mode : Mode) (c : Char) :
    engine.read ⟨earlier ++ literals, mode⟩ c =
      ⟨earlier ++ (engine.read ⟨literals, mode⟩ c).literals,
        (engine.read ⟨literals, mode⟩ c).mode⟩ := by
  cases mode with
  | closing content =>
      by_cases quote : c = '\'' <;> simp [read, quote]
  | _ => rfl

theorem readFrom_prepend (earlier literals : List String) (mode : Mode) (text : String) :
    engine.readFrom ⟨earlier ++ literals, mode⟩ text =
      ⟨earlier ++ (engine.readFrom ⟨literals, mode⟩ text).literals,
        (engine.readFrom ⟨literals, mode⟩ text).mode⟩ := by
  unfold readFrom
  generalize text.toList = characters
  induction characters generalizing literals mode with
  | nil => rfl
  | cons c characters ih =>
      rw [List.foldl_cons, List.foldl_cons, read_prepend, ih]

theorem literals?_readFrom_outside (earlier : List String) (text : String) :
    (engine.readFrom ⟨earlier, .outside⟩ text).literals? =
      (engine.literals? text).map (earlier ++ ·) := by
  have prepended := engine.readFrom_prepend earlier [] .outside text
  rw [List.append_nil] at prepended
  rw [prepended, literals?]
  obtain ⟨literals, mode⟩ := engine.readFrom {} text
  cases mode <;> simp [Reading.literals?]

variable {engine}

theorem literals?_read {reading : Reading} {c : Char} (free : c ≠ '\'') :
    (engine.read reading c).literals? = reading.literals? := by
  obtain ⟨literals, mode⟩ := reading
  cases mode with
  | inside content =>
      cases escape : engine.isEscape c <;> simp [read, free, escape, Reading.literals?]
  | _ => simp [read, free, Reading.literals?]

theorem eq_of_read_closing {reading : Reading} {c : Char} {content : List Char}
    (closing : (engine.read reading c).mode = .closing content) : c = '\'' := by
  obtain ⟨literals, mode⟩ := reading
  by_contra other
  cases mode with
  | inside content =>
      cases escape : engine.isEscape c <;> simp [read, other, escape] at closing
  | _ => simp [read, other] at closing

theorem readFrom_escape (literals : List String) (content : List Char) (c : Char) :
    engine.readFrom ⟨literals, .inside content⟩ (String.ofList (engine.escape c)) =
      ⟨literals, .inside (content ++ [c])⟩ := by
  unfold readFrom
  rw [String.toList_ofList]
  cases engine with
  | standard =>
      by_cases quote : c = '\'' <;> simp [escape, Quoter.escapeQuote, quote, read, isEscape]
  | mysql =>
      simp only [escape, Quoter.escapeBackslash]
      split_ifs <;> simp_all [read, isEscape, unescape]

end Engine

/-- A text without single quotes. -/
def QuoteFree (text : String) : Prop := '\'' ∉ text.toList

instance (text : String) : Decidable (QuoteFree text) :=
  inferInstanceAs (Decidable ('\'' ∉ text.toList))

namespace QuoteFree

theorem append {left right : String} (leftFree : QuoteFree left) (rightFree : QuoteFree right) :
    QuoteFree (left ++ right) := by
  simp_all [QuoteFree]

theorem intercalate {separator : String} (between : QuoteFree separator) {items : List String}
    (each : ∀ item ∈ items, QuoteFree item) : QuoteFree (separator.intercalate items) := by
  induction items with
  | nil => simp [QuoteFree]
  | cons item items ih =>
      have first := each item List.mem_cons_self
      cases items with
      | nil => simpa using first
      | cons next items =>
          have rest := ih fun other mem => each other (List.mem_cons_of_mem item mem)
          rw [String.intercalate_cons_cons]
          exact (first.append between).append rest

theorem head {text : String} (free : QuoteFree text) : text.toList.head? ≠ some '\'' :=
  fun quote => free (List.mem_of_mem_head? quote)

end QuoteFree

namespace Engine

variable {engine : Engine} {left right text : String}

theorem literals?_readFrom (free : QuoteFree text) (reading : Reading) :
    (engine.readFrom reading text).literals? = reading.literals? := by
  unfold readFrom
  unfold QuoteFree at free
  generalize text.toList = characters at free
  induction characters generalizing reading with
  | nil => rfl
  | cons c characters ih =>
      obtain ⟨first, rest⟩ := not_or.mp (mt List.mem_cons.mpr free)
      rw [List.foldl_cons, ih _ rest, literals?_read (Ne.symm first)]

theorem literals?_append_free (free : QuoteFree right) :
    engine.literals? (left ++ right) = engine.literals? left := by
  rw [literals?, readFrom_append, literals?_readFrom free, literals?]

theorem readFrom_free (free : QuoteFree text) (literals : List String) :
    engine.readFrom ⟨literals, .outside⟩ text = ⟨literals, .outside⟩ := by
  unfold readFrom
  unfold QuoteFree at free
  generalize text.toList = characters at free
  induction characters with
  | nil => rfl
  | cons c characters ih =>
      obtain ⟨first, rest⟩ := not_or.mp (mt List.mem_cons.mpr free)
      simpa [read, Ne.symm first] using ih rest

theorem literals?_free_append (free : QuoteFree left) :
    engine.literals? (left ++ right) = engine.literals? right := by
  rw [literals?, readFrom_append, readFrom_free free, literals?]

theorem literals?_free (free : QuoteFree text) : engine.literals? text = some [] := by
  rw [literals?, readFrom_free free]
  rfl

/-- The place behind a text is outside of literals or behind its last quote. -/
theorem getLast?_of_closing {reading : Reading} {content : List Char}
    (start : reading.mode = .outside)
    (closing : (engine.readFrom reading text).mode = .closing content) :
    text.toList.getLast? = some '\'' := by
  unfold readFrom at closing
  generalize text.toList = characters at closing
  induction characters using List.reverseRecOn with
  | nil => simp [start] at closing
  | append_singleton characters c ih =>
      rw [List.foldl_append] at closing
      simp [eq_of_read_closing closing]

/-- Behind a text with ended literals that does not end in a quote the reader stands outside. -/
theorem readFrom_of_getLast? {literals : List String}
    (ended : engine.literals? text = some literals)
    (apart : text.toList.getLast? ≠ some '\'') :
    engine.readFrom {} text = ⟨literals, .outside⟩ := by
  have behind (content : List Char) : (engine.readFrom {} text).mode ≠ .closing content :=
    fun closing => apart (getLast?_of_closing rfl closing)
  rw [literals?] at ended
  generalize engine.readFrom {} text = reading at ended behind
  obtain ⟨found, mode⟩ := reading
  cases mode with
  | outside => simpa [Reading.literals?] using ended
  | closing content => exact absurd rfl (behind content)
  | inside content | escaping content => simp [Reading.literals?] at ended

/-- Texts whose quotes do not meet are read one after the other. -/
theorem literals?_append {leftLiterals rightLiterals : List String}
    (leftEnded : engine.literals? left = some leftLiterals)
    (rightEnded : engine.literals? right = some rightLiterals)
    (apart : left.toList.getLast? ≠ some '\'' ∨ right.toList.head? ≠ some '\'') :
    engine.literals? (left ++ right) = some (leftLiterals ++ rightLiterals) := by
  rw [literals?, readFrom_append]
  rcases apart with apart | apart
  · rw [readFrom_of_getLast? leftEnded apart, literals?_readFrom_outside, rightEnded]
    rfl
  · rw [literals?] at leftEnded
    generalize engine.readFrom {} left = reading at leftEnded
    obtain ⟨found, mode⟩ := reading
    cases mode with
    | outside =>
        obtain rfl : found = leftLiterals := by simpa [Reading.literals?] using leftEnded
        rw [literals?_readFrom_outside, rightEnded]
        rfl
    | closing content =>
        obtain rfl : found ++ [String.ofList content] = leftLiterals := by
          simpa [Reading.literals?] using leftEnded
        have same : (engine.readFrom ⟨found, .closing content⟩ right).literals? =
            (engine.readFrom ⟨found ++ [String.ofList content], .outside⟩ right).literals? := by
          unfold readFrom
          cases characters : right.toList with
          | nil => rfl
          | cons c rest =>
              have other : c ≠ '\'' := by simpa [characters] using apart
              simp [read, other]
        rw [same, literals?_readFrom_outside, rightEnded]
        rfl
    | inside content | escaping content => simp [Reading.literals?] at leftEnded

theorem readFrom_flatMap_escape (literals : List String) (content characters : List Char) :
    engine.readFrom ⟨literals, .inside content⟩
        (String.ofList (characters.flatMap engine.escape)) =
      ⟨literals, .inside (content ++ characters)⟩ := by
  induction characters generalizing content with
  | nil => simp
  | cons c characters ih =>
      rw [List.flatMap_cons, String.ofList_append, readFrom_append, readFrom_escape, ih]
      simp

theorem readFrom_quote (content : String) :
    engine.readFrom {} (engine.quote content) = ⟨[], .closing content.toList⟩ := by
  have split : engine.quote content =
      "'" ++ String.ofList (content.toList.flatMap engine.escape) ++ "'" := by
    apply String.toList_inj.mp
    simp [quote, Quoter.enclose]
  have opened : engine.readFrom {} "'" = ⟨[], .inside []⟩ := rfl
  rw [split, readFrom_append, readFrom_append, opened, readFrom_flatMap_escape]
  simp [readFrom, read]

/-- What a quoter writes is read back as one literal. -/
theorem literals?_quote (content : String) :
    engine.literals? (engine.quote content) = some [content] := by
  rw [literals?, readFrom_quote]
  simp [Reading.literals?]

/-- Removing blanks at the end removes no literal. -/
theorem literals?_trimEnd (text : String) :
    engine.literals? (Text.trimEnd text) = engine.literals? text := by
  have split : text = Text.trimEnd text ++
      String.ofList (text.toList.reverse.takeWhile Text.isBlank).reverse := by
    apply String.toList_inj.mp
    rw [String.toList_append, Text.toList_trimEnd, String.toList_ofList, Text.dropEndWhile,
      ← List.reverse_append, List.takeWhile_append_dropWhile, List.reverse_reverse]
  have free : QuoteFree (String.ofList (text.toList.reverse.takeWhile Text.isBlank).reverse) := by
    intro quote
    rw [String.toList_ofList, List.mem_reverse] at quote
    exact absurd (List.mem_takeWhile_imp quote) (by decide)
  exact (literals?_append_free free).symm.trans (congrArg engine.literals? split.symm)

/-- All literals of the text end. -/
def Closed (engine : Engine) (text : String) : Prop := (engine.literals? text).isSome = true

instance (engine : Engine) (text : String) : Decidable (engine.Closed text) :=
  inferInstanceAs (Decidable (_ = true))

/-- The contents of the literals of a text. -/
def found (engine : Engine) (text : String) : List String := (engine.literals? text).getD []

theorem Closed.literals?_eq (closed : engine.Closed text) :
    engine.literals? text = some (engine.found text) := by
  obtain ⟨literals, ended⟩ := Option.isSome_iff_exists.mp closed
  simp [found, ended]

theorem closed_of_literals? {literals : List String}
    (ended : engine.literals? text = some literals) :
    engine.Closed text := by
  simp [Closed, ended]

theorem found_of_literals? {literals : List String}
    (ended : engine.literals? text = some literals) :
    engine.found text = literals := by
  simp [found, ended]

theorem closed_free (free : QuoteFree text) : engine.Closed text :=
  closed_of_literals? (literals?_free free)

/-- The literals of separated texts are those of the texts. -/
theorem literals?_intercalate {separator : String} (free : QuoteFree separator)
    (nonempty : separator ≠ "") {items : List String}
    (each : ∀ item ∈ items, engine.Closed item) :
    engine.literals? (separator.intercalate items) = some (items.flatMap engine.found) := by
  induction items with
  | nil => rfl
  | cons item items ih =>
      have first := (each item List.mem_cons_self).literals?_eq
      have rest := ih fun other mem => each other (List.mem_cons_of_mem item mem)
      cases items with
      | nil => simpa using first
      | cons next items =>
          rw [String.intercalate_cons_cons, String.append_assoc, List.flatMap_cons]
          apply literals?_append first
          · rw [literals?_free_append free, rest]
          · right
            have head := free.head
            obtain ⟨c, characters, split⟩ := List.exists_cons_of_ne_nil
              (mt String.toList_eq_nil_iff.mp nonempty)
            simpa [split] using head

theorem literals?_join {items : List String} (each : ∀ item ∈ items, engine.Closed item) :
    engine.literals? (String.join (items.map fun item => item ++ " ")) =
      some (items.flatMap engine.found) := by
  induction items with
  | nil => rfl
  | cons item items ih =>
      have first := (each item List.mem_cons_self).literals?_eq
      have rest := ih fun other mem => each other (List.mem_cons_of_mem item mem)
      have unfolded : String.join ((item :: items).map fun item => item ++ " ") =
          item ++ (" " ++ String.join (items.map fun item => item ++ " ")) := by
        simp [String.append_assoc]
      have free : QuoteFree " " := by decide
      rw [unfolded, List.flatMap_cons]
      exact literals?_append first (by rw [literals?_free_append free, rest]) (.inr (by simp))

end Engine
end SqlDraft
