import Mudline.Proofs.Text.Pieces
import Mudline.Script.Line

/-!
# Conditionals behind `else`

A conditional that stands behind `else` should be read as it is read alone. It is, for the keyword
that stands by itself and for the one that counts arguments: both readings cut the same word off and
hand the same rest to the reader of conditionals. Only the reading of whole lines knows the third
form, the keyword with a parenthesis at its end. Behind `else` that form is no conditional, and the
whole of it becomes the body of a bare `else`.
-/

namespace Mudline

namespace Script

/-- Whether the first word of a text is the keyword with a parenthesis at its end. -/
def isGlued (t : Text) : Bool :=
  Text.sameWord ((Text.splitWord t).1.take 3) "if("

/-- The word of a condition has no parenthesis glued to it. -/
theorem not_glued_of_if {t : Text} (h : Text.sameWord (Text.splitWord t).1 "if" = true) :
    isGlued t = false := by
  have hlength : (Text.splitWord t).1.length = 2 := Text.length_of_sameWord h
  rw [Bool.eq_false_iff]
  intro hglued
  have hthree := Text.length_of_sameWord hglued
  rw [List.length_take, hlength] at hthree
  exact absurd hthree (by decide)

/-- A count of arguments has no parenthesis glued to it. -/
theorem not_glued_of_argCount {t : Text} {n : Nat}
    (h : argCount (Text.splitWord t).1 = .ok (some n)) : isGlued t = false := by
  have hword : Text.sameWord ((Text.splitWord t).1.take 3) argCountWord = true := by
    rw [argCount] at h
    split at h
    · cases h
    · have hcount : argCountOf? (Text.splitWord t).1 = some n := by simpa using h
      rw [argCountOf?] at hcount
      split at hcount
      · assumption
      · cases hcount
  simp only [Text.sameWord, beq_iff_eq] at hword
  rw [isGlued, Text.sameWord, hword]
  decide

/-- What follows an else is no condition of its own. -/
theorem classifyElse_ne_ifLine (rest : Text) (cond : Condition) (body : Body) :
    classifyElse rest ≠ .ok (.ifLine cond body) := by
  simp only [classifyElse]
  split
  · simp [pure, Except.pure]
  · cases argCount (Text.splitWord rest).1 with
    | error f => simp [bind, Except.bind]
    | ok n => cases n <;> simp [bind, Except.bind, pure, Except.pure]

/-- What is a conditional alone is one behind `else` too, unless its keyword has a parenthesis at
its end. -/
theorem classifyElse_of_ifLine {raw t : Text} {cond : Condition} {body : Body}
    (h : classifyWord raw t = .ok (.ifLine cond body)) :
    classifyElse t =
      .ok (if isGlued t then .elseLine (readBody t) else .elseIfLine cond body) := by
  simp only [classifyWord] at h
  split at h
  · exact absurd h (classifyElse_ne_ifLine _ _ _)
  · split at h
    · cases h
    · split at h
      · rename_i hif
        have hline : Line.ifLine _ _ = .ifLine cond body := Except.ok.inj h
        obtain ⟨rfl, rfl⟩ := Line.ifLine.inj hline
        simp only [classifyElse, if_pos hif, not_glued_of_if hif, pure, Except.pure,
          Bool.false_eq_true, ↓reduceIte]
      · rename_i hword
        cases hcount : argCount (Text.splitWord t).1 with
        | error f => simp [hcount, bind, Except.bind] at h
        | ok n =>
          cases n with
          | some n =>
            simp only [hcount, bind, Except.bind, pure, Except.pure, Except.ok.injEq,
              Line.ifLine.injEq] at h
            obtain ⟨rfl, rfl⟩ := h
            simp only [classifyElse, if_neg hword, hcount, not_glued_of_argCount hcount, bind,
              Except.bind, pure, Except.pure, Bool.false_eq_true, ↓reduceIte]
          | none =>
            have hglued : isGlued t = true := by
              simp only [hcount, bind, Except.bind, pure, Except.pure] at h
              split at h
              · assumption
              · cases h
            simp only [classifyElse, if_neg hword, hcount, hglued, bind, Except.bind, pure,
              Except.pure, ↓reduceIte]

/-- The first word of a text that begins with the keyword is glued exactly if a parenthesis follows
the keyword. -/
theorem isGlued_if (t : Text) : isGlued ("if" ++ t) = true ↔ t.head? = some '(' := by
  have hword : (Text.splitWord ("if" ++ t)).1 = "if" ++ t.takeWhile (!Text.isBlank ·) := by
    have hi : Text.isBlank 'i' = false := by decide
    have hf : Text.isBlank 'f' = false := by decide
    simp [Text.splitWord, Text.trimStart, hi, hf]
  rw [isGlued, hword]
  cases t with
  | nil => decide
  | cons c t =>
    cases hc : Text.isBlank c with
    | true =>
      have hne : c ≠ '(' := by
        rintro rfl
        exact absurd hc (by decide)
      simp [hc, hne, Text.sameWord, Text.asciiLower]
    | false =>
      have hlower : c.toLower = '(' ↔ c = '(' :=
        ⟨Text.eq_of_toLower_eq (by decide), fun h => by rw [h]; rfl⟩
      simpa [hc, Text.sameWord, Text.asciiLower] using hlower

/-- Trimming the end does not touch a parenthesis in front. -/
theorem head?_trimEnd_eq_paren (x : Text) :
    (Text.trimEnd x).head? = some '(' ↔ x.head? = some '(' := by
  constructor
  · intro h
    obtain ⟨rest, hrest⟩ := List.head?_eq_some_iff.mp h
    obtain ⟨blanks, hx⟩ := Text.trimEnd_prefix x
    rw [← hx, hrest]
    rfl
  · intro h
    obtain ⟨rest, rfl⟩ := List.head?_eq_some_iff.mp h
    have hfront : Text.trimEnd (['('] ++ rest) = ['('] ++ Text.trimEnd rest :=
      Text.trimEnd_append rfl (by decide) rest
    rw [List.singleton_append] at hfront
    rw [hfront]
    rfl

/-- The line of a conditional that stands alone is read by its first word. -/
theorem classifyWord_of_ifLine {raw : Text} {cond : Condition} {body : Body}
    (h : classify raw = .ok (.ifLine cond body)) :
    classifyWord raw (Text.trim raw) = .ok (.ifLine cond body) := by
  simp only [classify] at h
  split at h
  · cases h
  · split at h
    · cases h
    · split at h
      · cases h
      · split at h
        · cases h
        · cases hlabel : labelName? (Text.trim raw) with
          | some name => simp [hlabel] at h
          | none => simpa [hlabel] using h

/-- A line that begins with both keywords is read by what follows the first. -/
theorem classify_elseIf (x : Text) :
    classify ("else if" ++ x) = classifyElse ("if" ++ Text.trimEnd x) := by
  have htrim : Text.trim ("else if" ++ x) = "else if" ++ Text.trimEnd x :=
    Text.trim_append rfl rfl (by decide) (by decide) x
  generalize Text.trimEnd x = y at htrim
  have hlabel : labelName? ("else if" ++ y) = none := by
    have hfront : ∃ rest, ("else if" ++ y : Text).dropLast = "else i" ++ rest := by
      cases y with
      | nil => exact ⟨[], rfl⟩
      | cons c y => exact ⟨'f' :: (c :: y).dropLast, by simp [List.dropLast]⟩
    obtain ⟨rest, hrest⟩ := hfront
    have hblank : (("else if" ++ y : Text).dropLast).any Text.isBlank = true := by
      rw [hrest, List.any_append]
      exact Bool.or_eq_true_iff.mpr (.inl (by decide))
    simp only [labelName?, hblank]
    simp
  have hword : Text.splitWord ("else if" ++ y) = ("else".toList, "if" ++ y) := by
    have hblanks : Text.isBlank 'e' = false ∧ Text.isBlank 'l' = false ∧
        Text.isBlank 's' = false ∧ Text.isBlank ' ' = true ∧ Text.isBlank 'i' = false := by
      decide
    simp [Text.splitWord, Text.trimStart, hblanks]
  have hstart : ("else if" ++ y : Text) = 'e' :: ("lse if" ++ y) := rfl
  have hkind : classify ("else if" ++ x) = classifyWord ("else if" ++ x) ("else if" ++ y) := by
    simp only [classify, htrim, hlabel]
    rw [hstart]
    simp
  have helse : Text.sameWord "else" "else" = true := by decide
  rw [hkind]
  simp only [classifyWord, hword, if_pos helse]

/-- A conditional that stands alone is read behind `else` as the same conditional exactly if no
parenthesis stands right behind its keyword. If one does, the line is a bare `else` that has the
whole conditional as its body. -/
theorem read_behind_else_iff {x : Text} {cond : Condition} {body : Body}
    (h : classify ("if" ++ x) = .ok (.ifLine cond body)) :
    (classify ("else if" ++ x) = .ok (.elseIfLine cond body) ↔ x.head? ≠ some '(') ∧
      (x.head? = some '(' →
        classify ("else if" ++ x) = .ok (.elseLine (readBody ("if" ++ x)))) := by
  have htrim : Text.trim ("if" ++ x) = "if" ++ Text.trimEnd x :=
    Text.trim_append rfl rfl (by decide) (by decide) x
  have hsame : readBody ("if" ++ Text.trimEnd x) = readBody ("if" ++ x) := by
    have htwice : Text.trim ("if" ++ Text.trimEnd x) = "if" ++ Text.trimEnd x := by
      rw [Text.trim_append rfl rfl (by decide) (by decide), Text.trimEnd_trimEnd]
    rw [readBody, htwice, readBody, htrim]
  have hword := classifyWord_of_ifLine h
  rw [htrim] at hword
  have hkind := classifyElse_of_ifLine hword
  have hglued : isGlued ("if" ++ Text.trimEnd x) = true ↔ x.head? = some '(' := by
    rw [isGlued_if, head?_trimEnd_eq_paren]
  rw [hsame, ← classify_elseIf] at hkind
  by_cases hparen : x.head? = some '('
  · rw [hkind, if_pos (hglued.mpr hparen)]
    simp [hparen]
  · rw [hkind, if_neg (mt hglued.mp hparen)]
    simp [hparen]

/-- A count of arguments is read behind an else as it is read alone. -/
theorem read_behind_else_iff_toll :
    classify "if_2 then { echo paid }" =
        .ok (.ifLine (.argCount 2) (.blockInline "echo paid")) ∧
      classify "else if_2 then { echo paid }" =
        .ok (.elseIfLine (.argCount 2) (.blockInline "echo paid")) := by
  have halone : classify ("if" ++ "_2 then { echo paid }".toList) =
      .ok (.ifLine (.argCount 2) (.blockInline "echo paid")) := by decide
  exact ⟨halone, (read_behind_else_iff halone).1.mpr (by decide)⟩

/-- With a parenthesis right behind the keyword, a condition that is tested alone is not tested
behind `else`. -/
theorem not_always_behind_else :
    ¬ ∀ (x : Text) (cond : Condition) (body : Body),
      classify ("if" ++ x) = .ok (.ifLine cond body) →
        classify ("else if" ++ x) = .ok (.elseIfLine cond body) := by
  intro hall
  have hbehind := hall "(1) then echo yep" (.expr "(1)") (.inline "echo yep") (by decide)
  exact absurd hbehind (by decide)

end Script

end Mudline
