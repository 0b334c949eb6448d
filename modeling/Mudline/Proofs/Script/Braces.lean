import Mudline.Proofs.Script.Depth
import Mudline.Proofs.Script.Return

/-!
# Blocks follow the braces

A script keeps one chain for each block that is open around its next line, and one more. So the
chains are as many as the braces before the next line say, as long as nothing jumps: a line that is
run opens and closes what its braces open and close, and a body that is passed over is passed over
with all its braces, or with none. There is one exception. A conditional may have its body on the
next line, and have none there, because the next brace closes the block that the conditional is in.
When the conditional is taken, the script stops before that brace; when it is not taken, the brace
is passed over as if it were the body, and the script believes from then on that the block is still
open. A run keeps the chains in step with the braces exactly as long as this does not happen.
-/

namespace Mudline.Script

/-- Whether a statement makes the script go on elsewhere: at a label of its listing, or where it was
called. -/
def leaves (s : Script) : Statement → Bool
  | .goto label | .gosub label _ => (s.listing.label? label).isSome
  | .comeBack => !s.stack.isEmpty
  | _ => false

/-- Whether a request makes the script go on elsewhere: by a jump, a call or the way back from one,
or at the label of a pattern that an incoming line matches. -/
def jumps (s : Script) : Request → Bool
  | .runFor _ =>
    s.status == .running &&
      match s.approach with
      | (u, some raw) => u.leaves (Statement.read (u.expandLine raw))
      | (_, none) => false
  | .feed line =>
    s.status.listens &&
      (hit? s.awaited line).any fun (a, _) => a.label.any fun label =>
        (s.listing.label? label).isSome
  | _ => false

/-- A statement that does not go on elsewhere leaves the script where it stands, in the same
blocks. -/
theorem perform_place (s : Script) {statement : Statement} (h : s.leaves statement = false) :
    (s.perform statement).next = s.next ∧ (s.perform statement).levels = s.levels := by
  have hkept (h : Steady s (s.perform statement)) :
      (s.perform statement).next = s.next ∧ (s.perform statement).levels = s.levels :=
    ⟨h.next, h.levels⟩
  cases statement with
  | goto label =>
    have hunknown : s.listing.label? label = none := by simpa [leaves] using h
    simp [perform, jump, hunknown, complain, emit, finish]
  | gosub label args =>
    have hunknown : s.listing.label? label = none := by simpa [leaves] using h
    simp [perform, call, jump, hunknown, complain, emit, finish]
  | comeBack =>
    have hnone : s.stack = [] := by simpa [leaves] using h
    simp [perform, comeBack, hnone, finish]
  | awaitAt label mode pattern =>
    simp only [perform, await]
    split <;> exact ⟨rfl, rfl⟩
  | waitFor mode pattern =>
    simp only [perform, waitFor]
    split <;> exact ⟨rfl, rfl⟩
  | matchWait seconds | pause seconds =>
    cases seconds with
    | none => exact ⟨rfl, rfl⟩
    | some seconds =>
      simp only [perform, waitSeconds]
      split <;> exact ⟨rfl, rfl⟩
  | exit => exact ⟨rfl, rfl⟩
  | nothing | echo _ | send _ | pass _ | setShared _ _ | set _ _ | unset _ | math _ _ _
  | evalText _ _ | evalNumber _ _ | shift =>
    exact hkept (steady_perform s rfl rfl)

/-- A line that does not go on elsewhere moves the script no further than up to its command. -/
theorem step_place {s : Script} (hrunning : s.status = .running)
    (hjump : s.jumps (.runFor 1) = false) :
    s.step.next = s.approach.1.next ∧ s.step.levels = s.approach.1.levels := by
  rw [step_eq]
  simp only [jumps, hrunning, BEq.rfl, Bool.true_and] at hjump
  rcases hpair : s.approach with ⟨u, _ | raw⟩
  · exact ⟨rfl, rfl⟩
  · rw [hpair] at hjump
    exact perform_place u hjump

/-- A request that neither starts the script nor makes it go on elsewhere nor runs a line leaves it
where it stands, in the same blocks. -/
theorem serve_place {s : Script} {r : Request} (hstart : r.isStart = false)
    (hjump : s.jumps r = false) (hidle : s.status ≠ .running ∨ r ≠ .runFor 1)
    (hsingle : r.isSingle = true) :
    (s.serve r).next = s.next ∧ (s.serve r).levels = s.levels := by
  cases r with
  | start args => simp [Request.isStart] at hstart
  | runFor budget =>
    obtain rfl : budget = 1 := by simpa [Request.isSingle] using hsingle
    have hstill : s.status ≠ .running := by simpa using hidle
    rw [serve, runFor_of_not_running hstill]
    exact ⟨rfl, rfl⟩
  | feed line =>
    simp only [serve, feed]
    split
    · rename_i hlistens
      split
      · exact ⟨rfl, rfl⟩
      · rename_i a groups hhit
        split
        · rename_i label hlabel
          have hunknown : s.listing.label? label = none := by
            simpa [jumps, hlistens, hhit, hlabel] using hjump
          simp [jump, hunknown, complain, emit, finish]
        · exact ⟨rfl, rfl⟩
    · exact ⟨rfl, rfl⟩
  | timeOut =>
    simp only [serve, timeOut]
    split <;> exact ⟨rfl, rfl⟩
  | resume =>
    simp only [serve, resume]
    split <;> exact ⟨rfl, rfl⟩
  | stop =>
    simp only [serve, stop]
    split <;> exact ⟨rfl, rfl⟩
  | shiftArgs => exact ⟨rfl, rfl⟩

/-- How many blocks are open at a line of a listing. -/
def Listing.depthAt (l : Listing) (i : Nat) : Nat :=
  depthAfter 0 ((l.kindsFrom 0).take i)

/-- The depth further on is that after the lines in between. -/
theorem Listing.depthAt_add (l : Listing) (i n : Nat) :
    l.depthAt (i + n) = depthAfter (l.depthAt i) ((l.kindsFrom i).take n) := by
  have hfrom : l.kindsFrom i = (l.kindsFrom 0).drop i := by simp [kindsFrom]
  rw [depthAt, depthAt, List.take_add, depthAfter_append, hfrom]

/-- If the next line is one of the listing, the script has a chain for each block that is open
there, and one more. -/
def Mirrors (s : Script) : Prop :=
  s.next < s.listing.lines.length → s.levels.length = 1 + s.listing.depthAt s.next

instance (s : Script) : Decidable s.Mirrors :=
  inferInstanceAs (Decidable (_ → _))

/-- A script that starts is outside of all blocks. -/
theorem mirrors_start (s : Script) (args : List Text) : (s.start args).Mirrors :=
  fun _ => rfl

/-- The depth at a later line, from the blocks that are open at the next line. -/
theorem Mirrors.depthAt {s : Script} (h : s.Mirrors) (hnext : s.next < s.listing.lines.length)
    {i : Nat} (hi : s.next ≤ i) : s.depthAt i = s.listing.depthAt i := by
  have hdepth : s.levels.length - 1 = s.listing.depthAt s.next := by
    have hlength := h hnext
    omega
  obtain ⟨n, rfl⟩ := Nat.exists_eq_add_of_le hi
  rw [Script.depthAt, hdepth, Nat.add_sub_cancel_left, Listing.depthAt_add]

/-- Whether the levels mirror the depth is decided by the listing, the next line and the levels. -/
theorem mirrors_congr {s t : Script} (hlisting : t.listing = s.listing) (hnext : t.next = s.next)
    (hlevels : t.levels = s.levels) : t.Mirrors ↔ s.Mirrors := by
  rw [Mirrors, Mirrors, hlisting, hnext, hlevels]

/-- What a single request does to a script that does not go on elsewhere: the blocks stay in step
with the braces unless a line swallows a brace, and then they do not. -/
theorem mirrors_serve {s : Script} {r : Request} (h : s.Mirrors) (hlevels : s.levels ≠ [])
    (hsingle : r.isSingle = true) (hstart : r.isStart = false) (hjump : s.jumps r = false) :
    ((s.serve r).Mirrors ↔ (r = .runFor 1 → s.swallows = false)) ∧ (s.serve r).levels ≠ [] := by
  by_cases hidle : s.status ≠ .running ∨ r ≠ .runFor 1
  · obtain ⟨hnext, hsame⟩ := serve_place hstart hjump hidle hsingle
    have hkeeps : r = .runFor 1 → s.swallows = false := by
      rintro rfl
      have hstill : s.status ≠ .running := by simpa using hidle
      simp [swallows, hstill]
    refine ⟨?_, by rwa [hsame]⟩
    rw [mirrors_congr (serve_listing s r) hnext hsame]
    exact iff_of_true h hkeeps
  · obtain ⟨hrunning, rfl⟩ : s.status = .running ∧ r = .runFor 1 := by simpa using hidle
    have hserve : s.serve (.runFor 1) = s.step := by simp [serve, runFor_one, hrunning]
    obtain ⟨hnext, hsame⟩ := step_place hrunning hjump
    rw [hserve]
    cases hline : s.listing.kind? s.next with
    | none =>
      have hend : s.step = s.finish := by rw [step, hline]
      have hkeeps : s.swallows = false := by simp [swallows, hline]
      refine ⟨?_, by rwa [hend]⟩
      rw [hend, mirrors_congr (t := s.finish) (s := s) rfl rfl rfl]
      exact iff_of_true h fun _ => hkeeps
    | some line =>
      have hmoved := movedOn_approach hline
      have hat := Listing.lt_of_kind? hline
      refine ⟨?_, by rw [hsame]; exact hmoved.levels hlevels⟩
      cases hswallows : s.swallows with
      | false =>
        have htracks := tracks_approach hrunning hline hlevels hswallows
        refine iff_of_true (fun hlast => ?_) fun _ => rfl
        rw [step_listing, hnext] at hlast ⊢
        rw [hsame, htracks.depth hlast, h.depthAt hat htracks.next]
      | true =>
        obtain ⟨hfurther, hlast, hlength⟩ := length_of_swallows hswallows
        refine iff_of_false (fun hmirrors => ?_) (by simp)
        have hdepth := hmirrors (by rwa [step_listing, hnext])
        rw [step_listing, hnext, hsame, hlength, h.depthAt hat hfurther] at hdepth
        omega

/-- What holds of all beginnings of a list holds of none of it and of those with the first entry. -/
theorem forall_prefix_cons {α : Type} {x : α} {l : List α} {p : List α → Prop} :
    (∀ qs, qs <+: x :: l → p qs) ↔ p [] ∧ ∀ qs, qs <+: l → p (x :: qs) := by
  refine ⟨fun h => ⟨h [] List.nil_prefix, fun qs hqs => h _ (List.cons_prefix_cons.mpr ⟨rfl, hqs⟩)⟩,
    fun h qs hqs => ?_⟩
  cases qs with
  | nil => exact h.1
  | cons q qs =>
    obtain ⟨rfl, hrest⟩ := List.cons_prefix_cons.mp hqs
    exact h.2 qs hrest

/-- What holds before an entry, wherever it stands, holds in front of it and behind the first
entry. -/
theorem forall_prefix_cons_of_append {α : Type} {x y : α} {l : List α} {p : List α → Prop} :
    (∀ qs, qs ++ [y] <+: x :: l → p qs) ↔
      (x = y → p []) ∧ ∀ qs, qs ++ [y] <+: l → p (x :: qs) := by
  refine ⟨fun h => ⟨?_, fun qs hqs => h _ (List.cons_prefix_cons.mpr ⟨rfl, hqs⟩)⟩,
    fun h qs hqs => ?_⟩
  · rintro rfl
    exact h [] (by simp)
  · cases qs with
    | nil => exact h.1 (List.cons_prefix_cons.mp hqs).1.symm
    | cons q qs =>
      obtain ⟨rfl, hrest⟩ := List.cons_prefix_cons.mp hqs
      exact h.2 qs hrest

/-- A run of single requests from a script whose blocks are in step with the braces. -/
theorem mirrors_after {s : Script} (h : s.Mirrors) (hlevels : s.levels ≠ []) {ms : List Request}
    (hsingle : ∀ r ∈ ms, r.isSingle = true) (hstart : ∀ r ∈ ms, r.isStart = false)
    (hjump : ∀ qs r, qs ++ [r] <+: ms → (s.after qs).jumps r = false) :
    (∀ qs, qs <+: ms → (s.after qs).Mirrors) ↔
      ∀ qs, qs ++ [.runFor 1] <+: ms → (s.after qs).swallows = false := by
  induction ms generalizing s with
  | nil => simp [List.prefix_nil, h]
  | cons r ms ih =>
    rw [List.forall_mem_cons] at hsingle hstart
    have hfirst : s.jumps r = false := hjump [] r (by simp)
    have hlater (qs : List Request) (q : Request) (hqs : qs ++ [q] <+: ms) :
        ((s.serve r).after qs).jumps q = false :=
      hjump (r :: qs) q (List.cons_prefix_cons.mpr ⟨rfl, hqs⟩)
    obtain ⟨hserve, hopen⟩ := mirrors_serve h hlevels hsingle.1 hstart.1 hfirst
    rw [forall_prefix_cons, forall_prefix_cons_of_append]
    simp only [after_nil, after_cons, ← hserve]
    -- Behind a swallowed brace the blocks are out of step at once, whatever comes later.
    refine ⟨fun hall => ?_, fun hall => ?_⟩
    · have hnow : (s.serve r).Mirrors := hall.2 [] List.nil_prefix
      exact ⟨hnow, (ih hnow hopen hsingle.2 hstart.2 hlater).mp hall.2⟩
    · exact ⟨h, (ih hall.1 hopen hsingle.2 hstart.2 hlater).mpr hall.2⟩

/-- Take any run of a script from its start, looked at line by line, in which nothing jumps. At each
line that the script comes to it has a chain for each block that the braces before the line leave
open, and one more, for as long as it swallows no brace; behind the first brace that it swallows, it
has not. -/
theorem mirrors_iff_no_brace_swallowed (s : Script) (args : List Text) (rs : List Request)
    (hstart : ∀ r ∈ rs, r.isStart = false)
    (hjump : ∀ qs r, qs ++ [r] <+: rs.flatMap Request.singly →
      ((s.start args).after qs).jumps r = false) :
    (∀ qs, qs <+: rs.flatMap Request.singly → ((s.start args).after qs).Mirrors) ↔
      ∀ qs, qs ++ [.runFor 1] <+: rs.flatMap Request.singly →
        ((s.start args).after qs).swallows = false := by
  refine mirrors_after (mirrors_start s args) (List.cons_ne_nil _ _)
    (fun r hr => Request.isSingle_of_mem hr) (fun r hr => ?_) hjump
  obtain ⟨q, hq, hr⟩ := List.mem_flatMap.mp hr
  have hqstart := hstart q hq
  cases q with
  | start args => simp [Request.isStart] at hqstart
  | runFor budget =>
    obtain rfl := List.eq_of_mem_replicate hr
    rfl
  | feed _ | timeOut | resume | stop | shiftArgs =>
    obtain rfl := List.mem_singleton.mp hr
    rfl

/-- An entry behind the beginning of a list is the next one. -/
theorem getElem_of_append_prefix {α : Type} {x : α} {l qs : List α} (h : qs ++ [x] <+: l) :
    ∃ hlength : qs.length < l.length, qs = l.take qs.length ∧ l[qs.length] = x := by
  obtain ⟨rest, rfl⟩ := h
  exact ⟨by simp, by simp, by simp⟩

/-- A script with a chain in a block, bodies on the lines below that are passed over, and a body
that is missing where no block is open. -/
def campScript : Script where
  listing := {
    name := "camp"
    lines :=
      [.ifLine (.argCount 1) .block, .ifLine (.argCount 2) .next, .comment, .blockStart,
        .command "echo %1 %2", .blockEnd, .elseLine (.inline "echo %1"), .command "waitfor goblin",
        .blockEnd, .ifLine (.argCount 9) .next, .blockEnd, .elseLine .block, .command "echo done",
        .blockEnd].map fun kind => ⟨⟨[], "camp", 1⟩, kind⟩
    labels := [] }

/-- The camp is watched until the goblin comes. -/
def campRequests : List Request :=
  [.runFor 3, .runFor 9, .feed "A goblin arrives.", .runFor 9]

/-- In a camp with nested blocks, no brace is swallowed and the levels mirror the depth
throughout. -/
theorem mirrors_iff_no_brace_swallowed_camp :
    (∀ r ∈ campRequests, r.isStart = false) ∧
    (∀ qs r, qs ++ [r] <+: campRequests.flatMap Request.singly →
      ((campScript.start ["one"]).after qs).jumps r = false) ∧
    (∀ qs, qs ++ [.runFor 1] <+: campRequests.flatMap Request.singly →
      ((campScript.start ["one"]).after qs).swallows = false) ∧
    ∀ qs, qs <+: campRequests.flatMap Request.singly →
      ((campScript.start ["one"]).after qs).Mirrors := by
  have hstart : ∀ r ∈ campRequests, r.isStart = false := by decide
  have hjumps : ∀ n, (h : n < (campRequests.flatMap Request.singly).length) →
      ((campScript.start ["one"]).after ((campRequests.flatMap Request.singly).take n)).jumps
        (campRequests.flatMap Request.singly)[n] = false := by
    decide +kernel
  have hswallows : ∀ n < (campRequests.flatMap Request.singly).length,
      ((campScript.start ["one"]).after ((campRequests.flatMap Request.singly).take n)).swallows =
        false := by
    decide +kernel
  have hjump : ∀ qs r, qs ++ [r] <+: campRequests.flatMap Request.singly →
      ((campScript.start ["one"]).after qs).jumps r = false := by
    intro qs r hqs
    obtain ⟨hlength, hfront, hlast⟩ := getElem_of_append_prefix hqs
    have hhere := hjumps qs.length hlength
    rwa [← hfront, hlast] at hhere
  have hkeeps : ∀ qs, qs ++ [.runFor 1] <+: campRequests.flatMap Request.singly →
      ((campScript.start ["one"]).after qs).swallows = false := by
    intro qs hqs
    obtain ⟨hlength, hfront, -⟩ := getElem_of_append_prefix hqs
    rw [hfront]
    exact hswallows qs.length hlength
  exact ⟨hstart, hjump, hkeeps,
    (mirrors_iff_no_brace_swallowed campScript ["one"] campRequests hstart hjump).mpr hkeeps⟩

/-- A script with a conditional in a block whose body is missing. -/
def strayLines : List Text :=
  ["if_0 \x7b", "if_1", "\x7d", "else echo wrong"]

/-- A library of that script. -/
def strayLibrary : Library :=
  fun name => if name = "stray" then some strayLines else none

/-- The blocks of a script are not always in step with the braces, although nothing jumps. The brace
before the last line is passed over as if it were a body, so that the `else` there is taken for a
part of the chain in the block, and its body runs although the block has been taken. -/
theorem not_always_mirrors :
    ∃ s, load strayLibrary "stray" {} {} = .ok s ∧
      (∀ n < 4, ((s.start []).after [.runFor n]).jumps (.runFor 1) = false) ∧
      ((s.start []).after [.runFor 2]).next = 3 ∧ s.listing.depthAt 3 = 0 ∧
      ((s.start []).after [.runFor 2]).levels.length = 2 ∧
      ¬ ((s.start []).after [.runFor 2]).Mirrors ∧
      ((s.start []).after [.runFor 4]).status = .finished ∧
      ((s.start []).after [.runFor 4]).events = [.echo "wrong\n"] :=
  ⟨_, rfl, by decide +kernel, by decide +kernel, by decide +kernel, by decide +kernel,
    by decide +kernel, by decide +kernel, by decide +kernel⟩

end Mudline.Script
