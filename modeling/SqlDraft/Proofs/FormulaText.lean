import SqlDraft.Proofs.Literal
import SqlDraft.Proofs.Precedence

/-!
# Reading boolean formulas

A text is cut into lexemes at blanks and parentheses outside of literals; `AND` and `OR` are the
connectives, and every other lexeme is a word.  The lexemes are read from the left with a stack of
open parentheses.  What is read between connectives is an operand, so a word with parentheses behind
it is an atom.  A text whose literals or parentheses do not end is not a formula.

Two texts with a connective between them are read as their formulas linked by it.
-/

namespace SqlDraft

open Alternatives

/-- What a text of a formula is cut into. -/
inductive Lexeme
  | word (content : String)
  | connective (combinator : Combinator)
  | opening
  | closing

namespace Lexeme

/-- The lexeme that a run of characters spells, if it is not empty. -/
def ofRun : List Char → List Lexeme
  | [] => []
  | run => [(Combinator.ofKeyword? (String.ofList run)).elim (word (String.ofList run)) connective]

/-- The character separates lexemes. -/
def isSeparator (c : Char) : Bool := c == '(' || c == ')' || Text.isBlank c

/-- The lexeme that a separator is, unless it is blank. -/
def ofSeparator (c : Char) : List Lexeme :=
  if c = '(' then [opening] else if c = ')' then [closing] else []

end Lexeme

/-- No literal is open. -/
def Mode.isOutside : Mode → Bool
  | .outside | .closing _ => true
  | .inside _ | .escaping _ => false

namespace Engine

variable (engine : Engine)

/-- The lexemes of a text behind the characters of a run that has begun; none if a literal does not
end. -/
def lexemesFrom (mode : Mode) (run : List Char) : List Char → Option (List Lexeme)
  | [] => if mode.isOutside then some (Lexeme.ofRun run) else none
  | c :: rest =>
      if mode.isOutside && Lexeme.isSeparator c then
        (lexemesFrom .outside [] rest).map
          (Lexeme.ofRun run ++ Lexeme.ofSeparator c ++ ·)
      else
        lexemesFrom (engine.read ⟨[], mode⟩ c).mode (run ++ [c]) rest

/-- The lexemes of a text. -/
def lexemes? (text : String) : Option (List Lexeme) :=
  engine.lexemesFrom .outside [] text.toList

variable {engine}

/-- A text ends at a separator outside of its literals, and another text begins. -/
theorem lexemesFrom_append_separator {c : Char} (separates : Lexeme.isSeparator c = true)
    {mode : Mode} {run left right : List Char} {lexemes : List Lexeme}
    (cut : engine.lexemesFrom mode run left = some lexemes) :
    engine.lexemesFrom mode run (left ++ c :: right) =
      (engine.lexemesFrom .outside [] right).map (lexemes ++ Lexeme.ofSeparator c ++ ·) := by
  induction left generalizing mode run lexemes with
  | nil =>
      rw [lexemesFrom] at cut
      split at cut
      · rename_i outside
        obtain rfl := Option.some.inj cut
        rw [List.nil_append, lexemesFrom, outside, separates, Bool.true_and, if_pos rfl]
      · cases cut
  | cons other left ih =>
      rw [lexemesFrom] at cut
      rw [List.cons_append, lexemesFrom]
      split at cut
      · rename_i ends
        obtain ⟨later, read, rfl⟩ := Option.map_eq_some_iff.mp cut
        rw [if_pos ends, ih read, Option.map_map]
        simp [Function.comp_def]
      · rename_i goesOn
        rw [if_neg goesOn, ih cut]

theorem lexemes?_append_blank {left right : String} {lexemes : List Lexeme}
    (cut : engine.lexemes? left = some lexemes) :
    engine.lexemes? (left ++ " " ++ right) = (engine.lexemes? right).map (lexemes ++ ·) := by
  have blank : Lexeme.isSeparator ' ' = true := by decide
  have characters : (left ++ " " ++ right).toList = left.toList ++ ' ' :: right.toList := by simp
  have nothing : Lexeme.ofSeparator ' ' = [] := rfl
  rw [lexemes?, characters, lexemesFrom_append_separator blank cut, nothing, List.append_nil,
    ← lexemes?]

theorem lexemes?_enclosed {text : String} {lexemes : List Lexeme}
    (cut : engine.lexemes? text = some lexemes) :
    engine.lexemes? ("(" ++ text ++ ")") = some (.opening :: lexemes ++ [.closing]) := by
  have opens : Lexeme.isSeparator '(' = true := rfl
  have closes : Lexeme.isSeparator ')' = true := rfl
  have start : engine.lexemesFrom .outside [] [] = some [] := rfl
  have characters : ("(" ++ text ++ ")").toList = [] ++ '(' :: (text.toList ++ [')']) := by simp
  have content : engine.lexemesFrom .outside [] (text.toList ++ [')']) =
      some (lexemes ++ [.closing]) := by
    rw [lexemesFrom_append_separator closes cut, start]
    exact congrArg some (List.append_nil _)
  rw [lexemes?, characters, lexemesFrom_append_separator opens start, content]
  rfl

theorem lexemes?_keyword (combinator : Combinator) :
    engine.lexemes? combinator.keyword = some [.connective combinator] := by
  cases combinator <;> cases engine <;> rfl

theorem lexemes?_connected {left right : String} {earlier later : List Lexeme}
    (leftCut : engine.lexemes? left = some earlier)
    (rightCut : engine.lexemes? right = some later) (combinator : Combinator) :
    engine.lexemes? (left ++ " " ++ (combinator.keyword ++ " " ++ right)) =
      some (earlier ++ .connective combinator :: later) := by
  rw [lexemes?_append_blank leftCut, lexemes?_append_blank (lexemes?_keyword combinator), rightCut]
  rfl

end Engine

/-- What has been read since a parenthesis was opened. -/
structure Frame where
  /-- The alternatives that have ended. -/
  alternatives : Formula := []
  /-- The operands of the alternative that has not ended. -/
  operands : List Operand := []
  /-- The parts of the operand that has not ended. -/
  parts : Operand := []

namespace Frame

/-- The formula that has been read, if it ends here. -/
def formula (frame : Frame) : Formula := frame.alternatives ++ [frame.operands ++ [frame.parts]]

/-- Read a part of an operand. -/
def add (frame : Frame) (part : Part) : Frame := { frame with parts := frame.parts ++ [part] }

/-- Read a connective, which ends an operand. -/
def cut (frame : Frame) : Combinator → Frame
  | .and => ⟨frame.alternatives, frame.operands ++ [frame.parts], []⟩
  | .or => ⟨frame.formula, [], []⟩

/-- Put alternatives that have ended, and operands, in front of what has been read. -/
def behind (alternatives : Formula) (operands : List Operand) (frame : Frame) : Frame :=
  match frame.alternatives with
  | [] => ⟨alternatives, operands ++ frame.operands, frame.parts⟩
  | first :: rest => ⟨alternatives ++ (operands ++ first) :: rest, frame.operands, frame.parts⟩

variable (alternatives : Formula) (operands : List Operand)

theorem behind_add (frame : Frame) (part : Part) :
    (frame.add part).behind alternatives operands =
      (frame.behind alternatives operands).add part := by
  obtain ⟨ended, others, parts⟩ := frame
  cases ended <;> rfl

theorem behind_cut (frame : Frame) (combinator : Combinator) :
    (frame.cut combinator).behind alternatives operands =
      (frame.behind alternatives operands).cut combinator := by
  obtain ⟨ended, others, parts⟩ := frame
  cases ended <;> cases combinator <;> simp [behind, cut, formula]

theorem cut_eq_behind (frame : Frame) (combinator : Combinator) :
    frame.cut combinator =
      Frame.behind (frame.cut combinator).alternatives (frame.cut combinator).operands {} := by
  cases combinator <;> simp [behind, cut]

/-- What is read behind a connective is linked to what has been read before it. -/
theorem formula_behind_cut (earlier later : Frame) (combinator : Combinator) :
    (later.behind (earlier.cut combinator).alternatives (earlier.cut combinator).operands).formula =
      link combinator earlier.formula later.formula := by
  obtain ⟨ended, operands, parts⟩ := later
  cases combinator with
  | or => cases ended <;> simp [behind, cut, formula, link]
  | and =>
      cases ended with
      | nil =>
          simp only [behind, cut, formula, link, List.nil_append, conjoin_append_singleton,
            List.append_assoc]
      | cons first rest =>
          simp only [behind, cut, formula, link, List.cons_append, conjoin_append_singleton,
            List.append_assoc]

end Frame

/-- The open parentheses, the innermost first, with what has been read in each. -/
inductive Nest
  | outermost (frame : Frame)
  | inner (frame : Frame) (around : Nest)

namespace Nest

/-- Change the innermost frame. -/
def update (change : Frame → Frame) : Nest → Nest
  | outermost frame => outermost (change frame)
  | inner frame around => inner (change frame) around

/-- Change the outermost frame. -/
def updateOutermost (change : Frame → Frame) : Nest → Nest
  | outermost frame => outermost (change frame)
  | inner frame around => inner frame (around.updateOutermost change)

/-- Read a lexeme. -/
def step : Nest → Lexeme → Option Nest
  | nest, .word content => some (nest.update (·.add (.word content)))
  | nest, .connective combinator => some (nest.update (·.cut combinator))
  | nest, .opening => some (inner {} nest)
  | inner frame around, .closing => some (around.update (·.add (.group frame.formula)))
  | outermost _, .closing => none

/-- The formula that has been read, if no parenthesis is open. -/
def formula? : Nest → Option Formula
  | outermost frame => some frame.formula
  | inner _ _ => none

theorem updateOutermost_update {place change : Frame → Frame}
    (commute : ∀ frame, place (change frame) = change (place frame)) (nest : Nest) :
    (nest.update change).updateOutermost place = (nest.updateOutermost place).update change := by
  cases nest with
  | outermost frame => exact congrArg outermost (commute frame)
  | inner frame around => rfl

variable (alternatives : Formula) (operands : List Operand)

/-- What stands in front of everything does not change how a lexeme is read. -/
theorem step_updateOutermost (nest : Nest) (lexeme : Lexeme) :
    (nest.updateOutermost (Frame.behind alternatives operands)).step lexeme =
      (nest.step lexeme).map (updateOutermost (Frame.behind alternatives operands)) := by
  have adds (part : Part) := updateOutermost_update
    (fun frame => frame.behind_add alternatives operands part)
  cases lexeme with
  | word content => exact congrArg some (adds (.word content) nest).symm
  | connective combinator =>
      have cuts := updateOutermost_update
        (fun frame => frame.behind_cut alternatives operands combinator)
      exact congrArg some (cuts nest).symm
  | opening => rfl
  | closing =>
      cases nest with
      | outermost frame => rfl
      | inner frame around => exact congrArg some (adds (.group frame.formula) around).symm

theorem foldlM_updateOutermost (nest : Nest) (lexemes : List Lexeme) :
    lexemes.foldlM step (nest.updateOutermost (Frame.behind alternatives operands)) =
      (lexemes.foldlM step nest).map (updateOutermost (Frame.behind alternatives operands)) := by
  induction lexemes generalizing nest with
  | nil => rfl
  | cons lexeme lexemes ih =>
      rw [List.foldlM_cons, List.foldlM_cons, step_updateOutermost]
      cases nest.step lexeme with
      | none => rfl
      | some next => exact ih next

/-- Put a frame with what is around it in the place of the outermost one. -/
def within : Nest → Nest → Nest
  | outermost frame, around => inner frame around
  | inner frame nest, around => inner frame (nest.within around)

/-- A lexeme that can be read is read in the same way between parentheses. -/
theorem step_within (around : Nest) {nest next : Nest} {lexeme : Lexeme}
    (read : nest.step lexeme = some next) :
    (nest.within around).step lexeme = some (next.within around) := by
  have inside (change : Frame → Frame) :
      (nest.within around).update change = (nest.update change).within around := by
    cases nest <;> rfl
  cases lexeme with
  | word content =>
      obtain rfl := Option.some.inj read
      exact congrArg some (inside _)
  | connective combinator =>
      obtain rfl := Option.some.inj read
      exact congrArg some (inside _)
  | opening =>
      obtain rfl := Option.some.inj read
      rfl
  | closing =>
      cases nest with
      | outermost frame => cases read
      | inner frame nest =>
          obtain rfl := Option.some.inj read
          cases nest <;> rfl

theorem foldlM_within (around : Nest) {nest last : Nest} {lexemes : List Lexeme}
    (read : lexemes.foldlM step nest = some last) :
    lexemes.foldlM step (nest.within around) = some (last.within around) := by
  induction lexemes generalizing nest with
  | nil =>
      obtain rfl := Option.some.inj read
      rfl
  | cons lexeme lexemes ih =>
      rw [List.foldlM_cons] at read ⊢
      obtain ⟨next, first, rest⟩ := Option.bind_eq_some_iff.mp read
      rw [step_within around first]
      exact ih rest

end Nest

namespace Formula

/-- The formula that lexemes spell. -/
def ofLexemes? (lexemes : List Lexeme) : Option Formula :=
  (lexemes.foldlM Nest.step (.outermost {})).bind Nest.formula?

/-- The formula that a text spells. -/
def read? (engine : Engine) (text : String) : Option Formula :=
  (engine.lexemes? text).bind ofLexemes?

theorem ofLexemes?_eq_some_iff {lexemes : List Lexeme} {formula : Formula} :
    ofLexemes? lexemes = some formula ↔
      ∃ frame : Frame, lexemes.foldlM Nest.step (.outermost {}) = some (.outermost frame) ∧
        frame.formula = formula := by
  rw [ofLexemes?, Option.bind_eq_some_iff]
  constructor
  · rintro ⟨nest, read, spelled⟩
    cases nest with
    | outermost frame => exact ⟨frame, read, Option.some.inj spelled⟩
    | inner frame around => cases spelled
  · rintro ⟨frame, read, spelled⟩
    exact ⟨.outermost frame, read, congrArg some spelled⟩

theorem ofLexemes?_connected {left right : List Lexeme} {earlier later : Formula}
    (leftRead : ofLexemes? left = some earlier) (rightRead : ofLexemes? right = some later)
    (combinator : Combinator) :
    ofLexemes? (left ++ .connective combinator :: right) =
      some (link combinator earlier later) := by
  obtain ⟨first, readFirst, rfl⟩ := ofLexemes?_eq_some_iff.mp leftRead
  obtain ⟨second, readSecond, rfl⟩ := ofLexemes?_eq_some_iff.mp rightRead
  refine ofLexemes?_eq_some_iff.mpr ⟨_, ?_, first.formula_behind_cut second combinator⟩
  have linked := Nest.foldlM_updateOutermost (first.cut combinator).alternatives
    (first.cut combinator).operands (.outermost {}) right
  rw [readSecond, Nest.updateOutermost, ← Frame.cut_eq_behind] at linked
  rw [List.foldlM_append, readFirst]
  exact linked

theorem ofLexemes?_enclosed {lexemes : List Lexeme} {formula : Formula}
    (read : ofLexemes? lexemes = some formula) :
    ofLexemes? (.opening :: lexemes ++ [.closing]) = some formula.enclosed := by
  obtain ⟨frame, folded, rfl⟩ := ofLexemes?_eq_some_iff.mp read
  have inside := Nest.foldlM_within (.outermost {}) folded
  have last : (.opening :: lexemes ++ [Lexeme.closing]).foldlM Nest.step (.outermost {}) =
      (Nest.inner frame (.outermost {})).step .closing := by
    rw [List.cons_append, List.foldlM_cons]
    change (lexemes ++ [Lexeme.closing]).foldlM Nest.step
      (.within (.outermost {}) (.outermost {})) = _
    rw [List.foldlM_append, inside]
    rfl
  rw [ofLexemes?, last]
  rfl

theorem read?_enclosed {engine : Engine} {text : String} {formula : Formula}
    (read : read? engine text = some formula) :
    read? engine ("(" ++ text ++ ")") = some formula.enclosed := by
  obtain ⟨lexemes, cut, spelled⟩ := Option.bind_eq_some_iff.mp read
  rw [read?, Engine.lexemes?_enclosed cut]
  exact ofLexemes?_enclosed spelled

/-- Texts with a combinator between them spell the formulas that it links. -/
theorem read?_connected {engine : Engine} {left right : String} {earlier later : Formula}
    (leftRead : read? engine left = some earlier) (rightRead : read? engine right = some later)
    (combinator : Combinator) :
    read? engine (left ++ " " ++ (combinator.keyword ++ " " ++ right)) =
      some (link combinator earlier later) := by
  obtain ⟨first, leftCut, leftRead⟩ := Option.bind_eq_some_iff.mp leftRead
  obtain ⟨second, rightCut, rightRead⟩ := Option.bind_eq_some_iff.mp rightRead
  rw [read?, Engine.lexemes?_connected leftCut rightCut]
  exact ofLexemes?_connected leftRead rightRead combinator

/-- An expression is an atom, two expressions with a connective between them, or an expression in
parentheses. -/
inductive IsExpression (engine : Engine) : String → Prop
  /-- A text that is read as one operand. -/
  | atom {text : String} {operand : Operand} (read : read? engine text = some [[operand]]) :
      IsExpression engine text
  | linked {left right : String} (first : IsExpression engine left)
      (second : IsExpression engine right) (combinator : Combinator) :
      IsExpression engine (left ++ " " ++ (combinator.keyword ++ " " ++ right))
  | enclosed {text : String} (inside : IsExpression engine text) :
      IsExpression engine ("(" ++ text ++ ")")

theorem IsExpression.isSome_read? {engine : Engine} {text : String}
    (expression : IsExpression engine text) : (read? engine text).isSome = true := by
  induction expression with
  | atom read =>
      rw [read]
      rfl
  | linked first second combinator left right =>
      obtain ⟨earlier, leftRead⟩ := Option.isSome_iff_exists.mp left
      obtain ⟨later, rightRead⟩ := Option.isSome_iff_exists.mp right
      rw [read?_connected leftRead rightRead]
      rfl
  | enclosed inside content =>
      obtain ⟨formula, read⟩ := Option.isSome_iff_exists.mp content
      rw [read?_enclosed read]
      rfl

end Formula

theorem Operand.isSettled_append {part : Part} (alone : Operand.IsSettled [part])
    (parts : Operand) : Operand.IsSettled (parts ++ [part]) := by
  match parts with
  | [] => exact alone
  | [first] => exact fun truth value same => same _ (List.mem_singleton_self _)
  | first :: second :: rest => exact fun truth value same => same _ (List.mem_singleton_self _)

theorem Operand.isSettled_nil : Operand.IsSettled [] :=
  fun _ _ same => same _ (List.mem_singleton_self _)

theorem Operand.isSettled_word (content : String) : Operand.IsSettled [.word content] :=
  fun _ _ same => same _ (List.mem_singleton_self _)

namespace Frame

variable {frame : Frame}

theorem flatten_formula (frame : Frame) :
    frame.formula.flatten = frame.alternatives.flatten ++ frame.operands ++ [frame.parts] := by
  simp [formula]

theorem isFull_formula_iff : frame.formula.IsFull ↔ [] ∉ frame.alternatives := by
  constructor
  · exact fun full mem => full.filled (List.mem_append_left _ mem)
  · exact fun filled => ⟨by simp [formula], by simpa [formula] using filled⟩

theorem isSettled_formula_iff :
    frame.formula.IsSettled ↔
      ([] ∉ frame.alternatives ∧
        ∀ operand ∈ frame.alternatives.flatten ++ frame.operands, operand.IsSettled) ∧
      frame.parts.IsSettled := by
  constructor
  · rintro ⟨full, settled⟩
    rw [flatten_formula, List.forall_mem_append, List.forall_mem_singleton] at settled
    exact ⟨⟨isFull_formula_iff.mp full, settled.1⟩, settled.2⟩
  · rintro ⟨⟨filled, settled⟩, last⟩
    refine ⟨isFull_formula_iff.mpr filled, ?_⟩
    rw [flatten_formula, List.forall_mem_append, List.forall_mem_singleton]
    exact ⟨settled, last⟩

theorem isSettled_add (settled : frame.formula.IsSettled) {part : Part}
    (alone : Operand.IsSettled [part]) : (frame.add part).formula.IsSettled := by
  obtain ⟨before, -⟩ := isSettled_formula_iff.mp settled
  exact isSettled_formula_iff.mpr ⟨before, Operand.isSettled_append alone frame.parts⟩

theorem isSettled_cut (settled : frame.formula.IsSettled) (combinator : Combinator) :
    (frame.cut combinator).formula.IsSettled := by
  have operands := settled.operands
  rw [flatten_formula] at operands
  refine isSettled_formula_iff.mpr ⟨?_, by cases combinator <;> exact Operand.isSettled_nil⟩
  cases combinator with
  | and =>
      have filled : [] ∉ frame.alternatives := isFull_formula_iff.mp settled.full
      rw [List.append_assoc] at operands
      exact ⟨filled, operands⟩
  | or =>
      rw [← flatten_formula] at operands
      refine ⟨settled.full.filled, ?_⟩
      rwa [cut, List.append_nil]

end Frame

namespace Nest

/-- What has been read in every open parenthesis is settled. -/
def IsSettled : Nest → Prop
  | outermost frame => frame.formula.IsSettled
  | inner frame around => frame.formula.IsSettled ∧ around.IsSettled

theorem IsSettled.update {nest : Nest} {change : Frame → Frame} (settled : nest.IsSettled)
    (keeps : ∀ frame : Frame, frame.formula.IsSettled → (change frame).formula.IsSettled) :
    (nest.update change).IsSettled := by
  cases nest with
  | outermost frame => exact keeps frame settled
  | inner frame around => exact ⟨keeps frame settled.1, settled.2⟩

theorem isSettled_empty : ({} : Frame).formula.IsSettled :=
  Frame.isSettled_formula_iff.mpr ⟨⟨List.not_mem_nil, List.forall_mem_nil _⟩, Operand.isSettled_nil⟩

theorem IsSettled.step {nest next : Nest} (settled : nest.IsSettled) {lexeme : Lexeme}
    (read : nest.step lexeme = some next) : next.IsSettled := by
  cases lexeme with
  | word content =>
      obtain rfl := Option.some.inj read
      exact settled.update fun frame kept =>
        Frame.isSettled_add kept (Operand.isSettled_word content)
  | connective combinator =>
      obtain rfl := Option.some.inj read
      exact settled.update fun frame kept => Frame.isSettled_cut kept combinator
  | opening =>
      obtain rfl := Option.some.inj read
      exact ⟨isSettled_empty, settled⟩
  | closing =>
      cases nest with
      | outermost frame => cases read
      | inner frame around =>
          obtain rfl := Option.some.inj read
          exact settled.2.update fun outer kept => Frame.isSettled_add kept settled.1.group

theorem IsSettled.foldlM {nest last : Nest} (settled : nest.IsSettled) {lexemes : List Lexeme}
    (read : lexemes.foldlM Nest.step nest = some last) : last.IsSettled := by
  induction lexemes generalizing nest with
  | nil =>
      obtain rfl := Option.some.inj read
      exact settled
  | cons lexeme lexemes ih =>
      rw [List.foldlM_cons] at read
      obtain ⟨next, first, rest⟩ := Option.bind_eq_some_iff.mp read
      exact ih (settled.step first) rest

end Nest

/-- The formula that a text spells is settled. -/
theorem Formula.isSettled_of_read? {engine : Engine} {text : String} {formula : Formula}
    (read : read? engine text = some formula) : formula.IsSettled := by
  obtain ⟨lexemes, -, spelled⟩ := Option.bind_eq_some_iff.mp read
  obtain ⟨frame, folded, rfl⟩ := ofLexemes?_eq_some_iff.mp spelled
  have fresh : (Nest.outermost {}).IsSettled := Nest.isSettled_empty
  exact fresh.foldlM folded

end SqlDraft
