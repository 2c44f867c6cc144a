import SlotCompiler.Program.Session
import SlotCompiler.Proofs.Atom
import SlotCompiler.Proofs.Program.Loop
import SlotCompiler.Proofs.Session

namespace SlotCompiler.Parser

open Step (runFrom stateAfter)
open Token (Kind)

theorem mismatch_cases (wording : Text) (t : Token) :
    (t.kind ∉ Kind.known ∧ mismatch wording t = .unknownKind t.kind.name) ∨
    (t.kind ∈ Kind.known ∧ t.Showable ∧ ∃ found, t.describe = .ok found ∧ mismatch wording t =
      .diagnostic ⟨.expectedToken, t.span, [wording, found], Nat.le_refl 2⟩) ∨
    (t.kind ∈ Kind.known ∧ ¬t.Showable ∧ mismatch wording t = .longNumber) := by
  by_cases hshown : t.Showable
  · by_cases hkind : t.kind ∈ Kind.known
    · obtain ⟨found, hfound⟩ := Token.exists_describe_of_showable hkind hshown
      refine .inr (.inl ⟨hkind, hshown, found, hfound, ?_⟩)
      rw [mismatch, hfound]
      rfl
    · refine .inl ⟨hkind, ?_⟩
      obtain ⟨kind, value, span⟩ := t
      cases kind with
      | other name => rfl
      | _ => exact absurd (by simp [Kind.known]) hkind
  · obtain ⟨hkind, hlong⟩ := Token.describe_of_not_showable hshown
    refine .inr (.inr ⟨hkind, hshown, ?_⟩)
    rw [mismatch, hlong]

theorem mismatch_inRange (wording : Text) (t : Token) :
    mismatch wording t ≠ .outOfTokens ∧ ∀ index, mismatch wording t ≠ .missingDetail index := by
  rcases mismatch_cases wording t with ⟨-, h⟩ | ⟨-, -, found, -, h⟩ | ⟨-, -, h⟩ <;> simp [h]

section Rules

variable {α β : Type} {p q : Parser α} {f : α → Parser β} {n : Nat} {front : List Token}
  {stop : Token}

-- The reading passes some of the tokens before `stop`, whatever comes after `stop`. A fault is
-- about the token that is then ahead.
def ConfinedAt (p : Parser α) (n : Nat) (front : List Token) (stop : Token) : Prop :=
  ∃ result moved ahead, front = moved ++ ahead ∧
    (∀ after, runFrom p ⟨n, front ++ stop :: after⟩ =
      (result, ⟨n + moved.length, ahead ++ stop :: after⟩)) ∧
    ∀ fault, result = .error fault → ∃ wording, fault = mismatch wording (ahead.headD stop)

def Confined (p : Parser α) : Prop :=
  ∀ n front stop, stop.kind = .endOfInput → ConfinedAt p n front stop

theorem confined_pure (a : α) : Confined (pure a) := fun _ front _ _ =>
  ⟨.ok a, [], front, rfl, fun _ => rfl, by simp⟩

theorem confinedAt_mismatch (wording : Text) :
    ConfinedAt (throw (mismatch wording (front.headD stop)) : Parser α) n front stop := by
  refine ⟨.error _, [], front, rfl, fun _ => rfl, fun fault h => ⟨wording, ?_⟩⟩
  exact (Except.error.inj h).symm

theorem ConfinedAt.congr (h : ConfinedAt q n front stop)
    (heq : ∀ after, runFrom p ⟨n, front ++ stop :: after⟩ =
      runFrom q ⟨n, front ++ stop :: after⟩) : ConfinedAt p n front stop := by
  obtain ⟨result, moved, ahead, hfront, hrun, hfault⟩ := h
  exact ⟨result, moved, ahead, hfront, fun after => (heq after).trans (hrun after), hfault⟩

theorem ConfinedAt.bind (hp : ConfinedAt p n front stop)
    (hf : ∀ a moved ahead, front = moved ++ ahead →
      (∀ after, runFrom p ⟨n, front ++ stop :: after⟩ =
        (.ok a, ⟨n + moved.length, ahead ++ stop :: after⟩)) →
      ConfinedAt (f a) (n + moved.length) ahead stop) : ConfinedAt (p >>= f) n front stop := by
  obtain ⟨result, moved, ahead, hfront, hrun, hfault⟩ := hp
  cases result with
  | error fault =>
      refine ⟨.error fault, moved, ahead, hfront, fun after => ?_, fun fault' h => ?_⟩
      · exact Step.runFrom_bind_error f (hrun after)
      · exact hfault fault' (by rw [Except.error.inj h])
  | ok a =>
      obtain ⟨result, more, rest, rfl, hrest, hfault'⟩ := hf a moved ahead hfront hrun
      refine ⟨result, moved ++ more, rest, by rw [hfront, List.append_assoc], fun after => ?_,
        hfault'⟩
      rw [Step.runFrom_bind_ok f (hrun after), hrest, List.length_append, Nat.add_assoc]

theorem Confined.bind (hp : Confined p) (hf : ∀ a, Confined (f a)) : Confined (p >>= f) := by
  intro n front stop hstop
  exact (hp n front stop hstop).bind fun a _ ahead _ _ => hf a _ ahead stop hstop

theorem ConfinedAt.peek_bind {f : Token → Parser α}
    (h : ConfinedAt (f (front.headD stop)) n front stop) :
    ConfinedAt (peek >>= f) n front stop := by
  refine h.congr fun after => ?_
  cases front <;> rfl

end Rules

theorem confined_peek : Confined peek := by
  intro n front stop _
  refine ⟨.ok (front.headD stop), [], front, rfl, fun after => ?_, by simp⟩
  cases front <;> rfl

theorem runFrom_advance_end {t : Token} (h : t.kind = .endOfInput) (n : Nat)
    (rest : List Token) : runFrom advance ⟨n, t :: rest⟩ = (.ok t, ⟨n, t :: rest⟩) := by
  rw [advance, Step.runFrom_bind_ok _ (runFrom_peek_cons n t rest)]
  simp [h]

theorem confined_advance : Confined advance := by
  intro n front stop hstop
  cases front with
  | nil => exact ⟨.ok stop, [], [], rfl, fun after => runFrom_advance_end hstop n after, by simp⟩
  | cons t rest =>
      by_cases ht : t.kind = .endOfInput
      · exact ⟨.ok t, [], t :: rest, rfl, fun after => runFrom_advance_end ht n _, by simp⟩
      · exact ⟨.ok t, [t], rest, rfl, fun after => runFrom_advance ht n _, by simp⟩

theorem confined_expect (kind : Kind) (expected : Text) : Confined (expect kind expected) := by
  intro n front stop hstop
  apply ConfinedAt.peek_bind
  split
  · exact confined_advance n front stop hstop
  · exact confinedAt_mismatch expected

theorem confined_name : Confined name := (confined_expect _ _).bind fun _ => confined_pure _

theorem confined_expr : Confined expr := by
  intro n front stop hstop
  apply ConfinedAt.peek_bind
  split
  · exact (confined_advance.bind fun _ => confined_pure _) n front stop hstop
  · exact (confined_advance.bind fun _ => confined_pure _) n front stop hstop
  · exact (confined_name.bind fun _ => confined_pure _) n front stop hstop
  · exact confinedAt_mismatch _

theorem confined_call : Confined call := by
  refine confined_name.bind fun callee => ?_
  refine (confined_expect _ _).bind fun _ => ?_
  refine confined_expr.bind fun argument => ?_
  exact (confined_expect _ _).bind fun _ => confined_pure _

theorem confined_binding : Confined binding := by
  refine (confined_expect _ _).bind fun _ => ?_
  refine confined_name.bind fun bound => ?_
  refine (confined_expect _ _).bind fun _ => ?_
  refine confined_expr.bind fun value => ?_
  exact (confined_expect _ _).bind fun _ => confined_pure _

theorem confined_statement : Confined statement := by
  intro n front stop hstop
  apply ConfinedAt.peek_bind
  split
  · refine (confined_call.bind fun s => ?_) n front stop hstop
    exact (confined_expect _ _).bind fun _ => confined_pure s
  · exact confined_binding n front stop hstop
  · exact confinedAt_mismatch _

-- By the number of tokens before the end of input: every turn of the loop passes some.
theorem confined_program : Confined program := by
  intro n front stop hstop
  induction hlength : front.length using Nat.strongRecOn generalizing n front with
  | ind length ih =>
      cases front with
      | nil =>
          exact ⟨.ok [], [], [], rfl, fun after => runFrom_program_end hstop n after, by simp⟩
      | cons t rest =>
          by_cases ht : t.kind = .endOfInput
          · exact ⟨.ok [], [], t :: rest, rfl, fun after => runFrom_program_end ht n _, by simp⟩
          refine ConfinedAt.congr ?_ fun after => runFrom_program_next ht n _
          refine (confined_statement n (t :: rest) stop hstop).bind fun s moved ahead _ hrun => ?_
          have hshorter : ahead.length < length := by
            have hlt := length_lt_of_statement (hrun [])
            simp only [List.length_append, List.length_cons, List.length_nil] at hlt hlength
            omega
          refine (ih ahead.length hshorter _ ahead rfl).bind fun p _ later _ _ => ?_
          exact confined_pure _ _ later stop hstop

theorem confined_request (request : Request) : Confined request.run := by
  cases request with
  | peek => exact confined_peek.bind fun _ => confined_pure _
  | advance => exact confined_advance.bind fun _ => confined_pure _
  | expect kind expected => exact (confined_expect _ _).bind fun _ => confined_pure _
  | program => exact confined_program.bind fun _ => confined_pure _
  | statement => exact confined_statement.bind fun _ => confined_pure _
  | call => exact confined_call.bind fun _ => confined_pure _
  | binding => exact confined_binding.bind fun _ => confined_pure _
  | name => exact confined_name.bind fun _ => confined_pure _
  | expr => exact confined_expr.bind fun _ => confined_pure _

-- Readings of a single token stay at it when they refuse it.
theorem Reads.unmoved {α : Type} {p : Parser α} {e : Expected} {f : Token → α} (h : Reads p e f)
    {c d : Cursor} {fault : Fault} (hrun : runFrom p c = (.error fault, d)) : d = c := by
  obtain ⟨n, rest⟩ := c
  cases rest with
  | nil => exact (Prod.mk.inj ((h.nil n).symm.trans hrun)).2.symm
  | cons t rest =>
      by_cases ht : e.accepts t.kind = true
      · rw [h.met n t rest ht] at hrun
        cases hrun
      · have hmissed := h.missed n t rest (by simpa using ht)
        exact (Prod.mk.inj (hmissed.symm.trans hrun)).2.symm

theorem unmoved_expect {kind : Kind} {expected : Text} {c d : Cursor} {fault : Fault}
    (h : runFrom (expect kind expected) c = (.error fault, d)) : d = c := by
  by_cases hkind : kind = .endOfInput
  · -- An end of input that is expected is not passed either.
    subst hkind
    obtain ⟨n, rest⟩ := c
    cases rest with
    | nil =>
        cases h
        rfl
    | cons t rest =>
        rw [expect, Step.runFrom_bind_ok _ (runFrom_peek_cons n t rest)] at h
        split at h
        next hend =>
          rw [runFrom_advance_end hend] at h
          cases h
        next =>
          cases h
          rfl
  · exact (reads_expect hkind expected).unmoved h

namespace Request

def single : Request → Bool
  | expect _ _ => true
  | name => true
  | expr => true
  | _ => false

theorem unmoved {request : Request} (hsingle : request.single = true) {c d : Cursor} {fault : Fault}
    (h : runFrom request.run c = (.error fault, d)) : d = c := by
  cases request with
  | expect kind expected =>
      rcases Step.runFrom_bind_eq_error.mp h with h | ⟨t, c', -, h⟩
      · exact unmoved_expect h
      · cases h
  | name =>
      rcases Step.runFrom_bind_eq_error.mp h with h | ⟨n, c', -, h⟩
      · exact reads_name.unmoved h
      · cases h
  | expr =>
      rcases Step.runFrom_bind_eq_error.mp h with h | ⟨e, c', -, h⟩
      · exact reads_expr.unmoved h
      · cases h
  | _ => cases hsingle

end Request

structure Stays (tokens : List Token) (last : Nat) (request : Request) (before : Cursor)
    (reply : Except Fault Reply) (after : Cursor) : Prop where
  bound : after.passed ≤ last
  forward : before.passed ≤ after.passed
  inRange : reply ≠ .error .outOfTokens ∧ ∀ index, reply ≠ .error (.missingDetail index)
  unmoved : request.single = true → ∀ fault, reply = .error fault → after.passed = before.passed
  -- What is reported is the token that the cursor is left at.
  refused : ∀ d, reply = .error (.diagnostic d) → d.kind = .expectedToken →
    ∃ t expected found, tokens[after.passed]? = some t ∧ d.span = t.span ∧
      t.describe = .ok found ∧ d.details = [expected, found]
  complete : request = .program → ∀ result, reply = .ok result → after.passed = last

def Within (front rest : List Token) (c : Cursor) : Prop :=
  ∃ moved ahead, front = moved ++ ahead ∧ c = ⟨moved.length, ahead ++ rest⟩

theorem getElem?_headD (moved ahead : List Token) (stop : Token) (after : List Token) :
    (moved ++ ahead ++ stop :: after)[moved.length]? = some (ahead.headD stop) := by
  cases ahead <;> simp

theorem exists_end_of_program {request : Request} (hrequest : request = .program) {c d : Cursor}
    {result : Reply} (h : runFrom request.run c = (.ok result, d)) :
    ∃ stop rest, d.rest = stop :: rest ∧ stop.kind = .endOfInput := by
  subst hrequest
  obtain ⟨p, c', hp, hpure⟩ := Step.runFrom_bind_eq_ok.mp h
  cases hpure
  rw [runFrom_program] at hp
  obtain ⟨ts, stop, after, -, -, hstop, rfl⟩ := matches_of_statements hp
  exact ⟨stop, after, rfl, hstop⟩

theorem session_eq (c : Cursor) (requests : List Request) :
    session c requests = Step.session Request.run c requests := by
  induction requests generalizing c with
  | nil => rfl
  | cons request rest ih =>
      rw [Step.session, ← ih]
      rfl

section Session

variable {front : List Token} {stop : Token} (hfront : ∀ t ∈ front, t.kind ≠ .endOfInput)
  (hstop : stop.kind = .endOfInput)
include hfront hstop

theorem Within.request {after : List Token} {c d : Cursor}
    (hc : Within front (stop :: after) c) {request : Request} {reply : Except Fault Reply}
    (h : runFrom request.run c = (reply, d)) :
    Within front (stop :: after) d ∧
      Stays (front ++ stop :: after) front.length request c reply d := by
  obtain ⟨moved, ahead, rfl, rfl⟩ := hc
  obtain ⟨result, more, later, rfl, hrun, hfault⟩ :=
    confined_request request moved.length ahead stop hstop
  obtain ⟨rfl, rfl⟩ := Prod.mk.inj ((hrun after).symm.trans h)
  have hnext : (moved ++ (more ++ later) ++ stop :: after)[moved.length + more.length]? =
      some (later.headD stop) := by
    rw [← List.length_append, ← List.append_assoc]
    exact getElem?_headD (moved ++ more) later stop after
  refine ⟨⟨moved ++ more, later, by simp, by simp⟩, ?_⟩
  constructor
  case bound =>
    simp only [List.length_append]
    omega
  case forward => exact Nat.le_add_right _ _
  case inRange =>
    constructor
    · intro hout
      obtain ⟨wording, hmismatch⟩ := hfault _ hout
      exact (mismatch_inRange wording _).1 hmismatch.symm
    · intro index hout
      obtain ⟨wording, hmismatch⟩ := hfault _ hout
      exact (mismatch_inRange wording _).2 index hmismatch.symm
  case unmoved =>
    intro hsingle fault hreply
    subst hreply
    exact congrArg Cursor.passed (Request.unmoved hsingle h)
  case refused =>
    intro d hreply _
    obtain ⟨wording, hmismatch⟩ := hfault _ hreply
    rcases mismatch_cases wording (later.headD stop) with
      ⟨-, heq⟩ | ⟨-, -, found, hfound, heq⟩ | ⟨-, -, heq⟩ <;> rw [heq] at hmismatch
    · cases hmismatch
    · obtain rfl := Fault.diagnostic.inj hmismatch
      exact ⟨_, wording, found, hnext, rfl, hfound, rfl⟩
    · cases hmismatch
  case complete =>
    intro hrequest tree hreply
    subst hreply
    obtain ⟨last, rest, hlast, hend⟩ := exists_end_of_program hrequest h
    cases later with
    | nil => simp
    | cons t later =>
        obtain ⟨rfl, -⟩ := List.cons.inj hlast
        exact absurd hend (hfront t (by simp))

-- However one parser is used, it stays at or before the end of input and never goes back. No call
-- runs out of tokens; a call that fails leaves the parser at the token that it complains about.
theorem session_stays (after : List Token) (requests : List Request) :
    (session { rest := front ++ stop :: after } requests).length = requests.length ∧
    ∀ past reply c rest,
      session { rest := front ++ stop :: after } requests = past ++ (reply, c) :: rest →
      ∃ request, requests[past.length]? = some request ∧
        Stays (front ++ stop :: after) front.length request
          (stateAfter { rest := front ++ stop :: after } past) reply c := by
  have hstart : Within front (stop :: after) { rest := front ++ stop :: after } :=
    ⟨[], front, rfl, rfl⟩
  rw [session_eq]
  refine ⟨Step.length_session _ _ _, fun past reply c rest h => ?_⟩
  exact (Step.session_invariant (fun _ _ _ hc => hc.request hfront hstop rfl) hstart h).2

end Session

-- The value of a binding is missing, and so is a name in its place. Past the mark that ends the
-- statement the program is over, whatever comes after the end of input.
theorem session_stays_missing_value :
    let front : List Token := [⟨.letKeyword, .text "let", ⟨0, 0, 3⟩⟩,
      ⟨.identifier, .text "x", ⟨0, 4, 1⟩⟩, ⟨.assign, .text "=", ⟨0, 6, 1⟩⟩,
      ⟨.semicolon, .text ";", ⟨0, 8, 1⟩⟩]
    let stop : Token := ⟨.endOfInput, .text [], ⟨0, 8, 1⟩⟩
    let tokens := front ++ [stop, ⟨.identifier, .text "y", ⟨0, 9, 1⟩⟩]
    let replies := session { rest := tokens } [.statement, .name, .advance, .program]
    (∀ t ∈ front, t.kind ≠ .endOfInput) ∧ stop.kind = .endOfInput ∧
      replies.map (fun r => (r.1.isOk, r.2.passed)) =
        [(false, 3), (false, 3), (true, 4), (true, 4)] ∧
      ∃ first fault c rest, replies = first :: (.error fault, c) :: rest ∧
        Stays tokens 4 .name first.2 (.error fault) c := by
  intro front stop tokens replies
  have hfront : ∀ t ∈ front, t.kind ≠ .endOfInput := by decide
  have hstop : stop.kind = .endOfInput := rfl
  obtain ⟨-, hstays⟩ := session_stays hfront hstop [⟨.identifier, .text "y", ⟨0, 9, 1⟩⟩]
    [.statement, .name, .advance, .program]
  obtain ⟨request, hrequest, hname⟩ := hstays [_] _ _ _ rfl
  obtain rfl := Option.some.inj hrequest
  exact ⟨hfront, hstop, rfl, _, _, _, _, rfl, hname⟩

end SlotCompiler.Parser
