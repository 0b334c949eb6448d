import Mudline.Proofs.Markup.Boundary
import Mathlib.Data.List.Infix

/-!
# Chunks that are cut off

A chunk may be cut off anywhere: within a name, an attribute, an escape or a closing marker. What is
read of the front of a text is then read of the whole text as well, and in the same place; only a
text at the end of the front may go on behind the cut. The reader makes the same moves on both, up
to the move that the front ends within, and no later move takes back what is complete.
-/

namespace Mudline.Markup

namespace Reading

variable (r : Reading)

/-- What is opened on the outermost level or below is not complete yet. -/
theorem complete_enter (name : Text) (attrs : List (Text × Text)) :
    (r.enter name attrs).complete = r.complete := by
  rcases r with ⟨_ | ⟨tag, outer⟩, siblings⟩
  · rfl
  · simp [complete, enter, List.getLast?_cons]

/-- A token below the outermost level is not complete before the tag around it is. -/
theorem complete_push (t : Token) :
    (r.push t).complete = if r.opened = [] then r.siblings ++ [t] else r.complete := by
  rcases r with ⟨_ | ⟨tag, outer⟩, siblings⟩
  · rfl
  · simp [complete, push, List.getLast?_cons]

/-- What is complete stays so when a token is added. -/
theorem complete_prefix_push (t : Token) : r.complete <+: (r.push t).complete := by
  rcases r with ⟨_ | ⟨tag, outer⟩, siblings⟩
  · exact List.prefix_append siblings [t]
  · rw [complete_push, if_neg (List.cons_ne_nil tag outer)]

/-- What is complete stays so when a tag is closed. -/
theorem complete_prefix_leave : r.complete <+: r.leave.complete := by
  rcases r with ⟨_ | ⟨tag, _ | ⟨next, outer⟩⟩, siblings⟩
  · exact List.prefix_rfl
  · exact List.prefix_append tag.before _
  · have hsame : (tag :: next :: outer).getLast? = (next :: outer).getLast? := rfl
    rw [complete, complete, leave, hsame]
    cases hlast : (next :: outer).getLast? with
    | none => simp at hlast
    | some outermost => exact List.prefix_rfl

end Reading

/-- No move takes back what is complete. -/
theorem complete_prefix_advance (r : Reading) (t : Text) :
    r.complete <+: (advance r t).1.complete := by
  rcases t with _ | ⟨c, rest⟩
  · exact List.prefix_rfl
  · by_cases hc : c = '<'
    · subst hc
      by_cases hslash : rest.head? = some '/'
      · obtain ⟨rest, rfl⟩ := List.head?_eq_some_iff.mp hslash
        exact r.complete_prefix_leave
      · rw [advance_header hslash]
        cases readHeader rest with
        | opened name attrs left =>
          have hsame := r.complete_enter name attrs
          exact hsame ▸ List.prefix_rfl
        | closed name attrs left => exact r.complete_prefix_push _
        | dropped left => exact List.prefix_rfl
        | cut => exact List.prefix_rfl
    · rw [advance_text hc]
      exact r.complete_prefix_push _

/-- Reading on leaves what is complete where it is. -/
theorem complete_prefix_readFrom (r : Reading) (t : Text) :
    r.complete <+: (readFrom r t).complete := by
  have hwithin (allowance : Nat) : r.complete <+: (readWithin allowance r t).complete := by
    induction allowance generalizing r t with
    | zero => cases t <;> exact List.prefix_rfl
    | succ allowance ih =>
      rw [readWithin_succ]
      exact (complete_prefix_advance r t).trans (ih _ _)
  exact hwithin t.length

/-- That tokens are the first ones of others, where the last of them may be a text that goes on
there. -/
def CutShort (front whole : List Token) : Prop :=
  front <+: whole ∨
    ∃ before x y after, front = before ++ [.text x] ∧ whole = before ++ [.text (x ++ y)] ++ after

/-- A text that is not ended by markup may go on behind the cut. -/
theorem cutShort_of_text {r : Reading} {c : Char} {t : Text} (hc : c ≠ '<')
    (hend : (c :: t).dropWhile (· != '<') = []) (rest : Text) :
    CutShort (readFrom r (c :: t)).complete (readFrom r (c :: (t ++ rest))).complete := by
  have hchars : ∀ d ∈ c :: t, (d != '<') = true := List.dropWhile_eq_nil_iff.mp hend
  have hfront : readFrom r (c :: t) = r.push (.text (c :: t)) := by
    rw [readFrom_move (List.cons_ne_nil c t), advance_text hc, hend, readFrom_nil,
      List.takeWhile_eq_self_iff.mpr hchars]
  have hwhole : readFrom r (c :: (t ++ rest)) =
      readFrom (r.push (.text (c :: t ++ rest.takeWhile (· != '<'))))
        (rest.dropWhile (· != '<')) := by
    rw [readFrom_move (List.cons_ne_nil c _), advance_text hc, ← List.cons_append,
      List.takeWhile_append_of_pos hchars, List.dropWhile_append_of_pos hchars]
  have hlater := complete_prefix_readFrom
    (r.push (.text (c :: t ++ rest.takeWhile (· != '<')))) (rest.dropWhile (· != '<'))
  rw [← hwhole] at hlater
  rw [hfront]
  by_cases houtermost : r.opened = []
  · rw [Reading.complete_push, if_pos houtermost] at hlater ⊢
    obtain ⟨after, hafter⟩ := hlater
    exact .inr ⟨r.siblings, c :: t, _, after, rfl, hafter.symm⟩
  · rw [Reading.complete_push, if_neg houtermost] at hlater ⊢
    exact .inl hlater

/-- Markup that is cut off yields nothing, except that a closing marker closes its tag before it has
come to its own end. -/
theorem cutShort_of_markup {r : Reading} {t : Text} (hcut : isWhole ('<' :: t) = false)
    (rest : Text) :
    CutShort (readFrom r ('<' :: t)).complete (readFrom r ('<' :: (t ++ rest))).complete := by
  left
  by_cases hslash : t.head? = some '/'
  · obtain ⟨t, rfl⟩ := List.head?_eq_some_iff.mp hslash
    have hnone : t.dropWhile (· != '>') = [] := by
      rw [List.dropWhile_eq_nil_iff]
      have hnot : '>' ∉ t := by simpa [isWhole] using hcut
      intro d hd
      simpa using ne_of_mem_of_not_mem hd hnot
    have hfront : readFrom r ('<' :: '/' :: t) = r.leave := by
      rw [readFrom_move (List.cons_ne_nil _ _), advance, skipClosing, hnone]
      rfl
    rw [hfront, List.cons_append, readFrom_move (List.cons_ne_nil _ _), advance]
    exact complete_prefix_readFrom _ _
  · have hheader : readHeader t = .cut := by
      rw [isWhole_header hslash] at hcut
      cases hread : readHeader t with
      | cut => rfl
      | _ => simp [hread, Header.isCut] at hcut
    have hfront : readFrom r ('<' :: t) = r := by
      rw [readFrom_move (List.cons_ne_nil _ _), advance_header hslash, hheader]
      rfl
    rw [hfront]
    exact complete_prefix_readFrom _ _

/-- What is read of the front of a text is read of the whole text as well. -/
theorem cutShort_readFrom (r : Reading) (t rest : Text) :
    CutShort (readFrom r t).complete (readFrom r (t ++ rest)).complete := by
  induction hn : t.length using Nat.strong_induction_on generalizing r t with
  | _ n ih =>
    rcases t with _ | ⟨c, t⟩
    · exact .inl (complete_prefix_readFrom r rest)
    -- A move that the front does not end within is made alike on the whole text.
    have hmove (hsame : advance r (c :: (t ++ rest)) =
        ((advance r (c :: t)).1, (advance r (c :: t)).2 ++ rest)) :
        CutShort (readFrom r (c :: t)).complete (readFrom r (c :: (t ++ rest))).complete := by
      have hshorter := length_advance_lt r (List.cons_ne_nil c t)
      rw [readFrom_move (List.cons_ne_nil c t), readFrom_move (List.cons_ne_nil c _), hsame]
      exact ih _ (hn ▸ hshorter) _ _ rfl
    rw [List.cons_append]
    by_cases hc : c = '<'
    · subst hc
      cases hwhole : isWhole ('<' :: t) with
      | true => exact hmove (advance_markup_append hwhole rest r)
      | false => exact cutShort_of_markup hwhole rest
    · by_cases hend : (c :: t).dropWhile (· != '<') = []
      · exact cutShort_of_text hc hend rest
      · obtain ⟨htake, hdrop⟩ := cut_front hend rest
        rw [List.cons_append] at htake hdrop
        exact hmove (by rw [advance_text hc, advance_text hc, htake, hdrop])

/-- Wherever a text is cut off, what is read of its front are tokens of the whole text, the first
ones and each of them unchanged; only the last may be a text that goes on behind the cut. -/
theorem cut_yields_first_tokens (front rest : Text) :
    read front <+: read (front ++ rest) ∨
      ∃ before x y after, read front = before ++ [.text x] ∧
        read (front ++ rest) = before ++ [.text (x ++ y)] ++ after :=
  cutShort_readFrom {} front rest

end Mudline.Markup
