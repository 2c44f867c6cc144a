import SlotCompiler.Step

namespace SlotCompiler.Step

variable {ε σ α ρ : Type}

def session (run : ρ → Step ε σ α) (s : σ) : List ρ → List (Except ε α × σ)
  | [] => []
  | r :: rest => (run r).runFrom s :: session run ((run r).runFrom s).2 rest

def stateAfter (s : σ) (replies : List (Except ε α × σ)) : σ :=
  (replies.getLast?.map Prod.snd).getD s

theorem stateAfter_cons (s : σ) (r : Except ε α × σ) (replies : List (Except ε α × σ)) :
    stateAfter s (r :: replies) = stateAfter r.2 replies := by
  cases replies with
  | nil => rfl
  | cons next rest => simp [stateAfter, List.getLast?_cons]

theorem length_session (run : ρ → Step ε σ α) (s : σ) (requests : List ρ) :
    (session run s requests).length = requests.length := by
  induction requests generalizing s with
  | nil => rfl
  | cons r rest ih => rw [session, List.length_cons, List.length_cons, ih]

-- What every step keeps holds all along, and with it what every step does.
theorem session_invariant {run : ρ → Step ε σ α} {Keeps : σ → Prop}
    {Does : ρ → σ → Except ε α → σ → Prop} {requests : List ρ}
    (hstep : ∀ r ∈ requests, ∀ s, Keeps s →
      Keeps ((run r).runFrom s).2 ∧ Does r s ((run r).runFrom s).1 ((run r).runFrom s).2)
    {s s' : σ} (hs : Keeps s) {past rest : List (Except ε α × σ)} {reply : Except ε α}
    (h : session run s requests = past ++ (reply, s') :: rest) :
    Keeps s' ∧ ∃ r, requests[past.length]? = some r ∧ Does r (stateAfter s past) reply s' := by
  induction requests generalizing s past with
  | nil => simp [session] at h
  | cons r later ih =>
      obtain ⟨hfirst, hlater⟩ := List.forall_mem_cons.mp hstep
      obtain ⟨hkeeps, hdoes⟩ := hfirst s hs
      rw [session] at h
      cases past with
      | nil =>
          obtain ⟨hreply, -⟩ := List.cons.inj h
          rw [hreply] at hkeeps hdoes
          exact ⟨hkeeps, r, rfl, hdoes⟩
      | cons first past =>
          obtain ⟨rfl, htail⟩ := List.cons.inj h
          obtain ⟨hs', r', hr', hdoes'⟩ := ih hlater hkeeps htail
          exact ⟨hs', r', hr', by rwa [stateAfter_cons]⟩

end SlotCompiler.Step
