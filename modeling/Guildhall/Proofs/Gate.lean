/-
Guildhall/Proofs/Gate.lean

Calls that pass the gate.  A call that the gate admits gave a token, the
decoder found claims in it, the policy of the operation allowed them, and
there was time; and what comes of the call is what the service made of it.
What a policy allows is the matter of `Guildhall.Proofs.Decision`.

Main statements: `Gate.authenticate_eq_ok`, `Gate.screen_eq_ok`,
`Gate.screen_denies` and `Gate.run_eq_ok`.
-/
import Guildhall.Gateway.Gate
import Guildhall.Proofs.Decision
import Guildhall.Proofs.Statement

namespace Guildhall

/-! ### The gate -/

namespace Gateway.Gate

open Journal (Context)

variable {gate : Gate} {now : Instant} {e : Entrant} {c scope : Context}

/-- The library breaks down at the token of a header, which it does not refuse. -/
def BreaksDown (decoder : Token.Decoder) (authorization : Option String) : Prop :=
  ∃ token fault, Bearer.credential authorization = .ok token ∧
    Token.decode decoder token = .error fault ∧ decoder.breaksAt fault = true

/-- No header breaks down a library that refuses values that are nested too deeply. -/
theorem not_breaksDown_of_refusesDepth {decoder : Token.Decoder}
    (h : decoder.library.refusesDepth = true) (authorization : Option String) :
    ¬BreaksDown decoder authorization := by
  rintro ⟨token, fault, -, -, hbreaks⟩
  unfold Token.Decoder.breaksAt at hbreaks
  rw [h, Bool.not_true, Bool.and_false] at hbreaks
  cases hbreaks

/-- **Callers are those whose token has claims.** -/
theorem authenticate_eq_ok {authorization : Option String} {claims : Claims} :
    gate.authenticate authorization = .ok claims ↔
      ∃ token, Bearer.credential authorization = .ok token ∧
        Token.decode gate.decoder token = .ok claims := by
  unfold authenticate
  cases hcredential : Bearer.credential authorization with
  | error denial =>
    constructor
    · rintro ⟨⟩
    · rintro ⟨token, ⟨⟩, -⟩
  | ok token =>
    dsimp only
    cases hdecode : Token.decode gate.decoder token with
    | error fault =>
      refine iff_of_false ?_ fun ⟨token', htoken, h⟩ => ?_
      · dsimp only
        split <;> rintro ⟨⟩
      · rw [← Except.ok.inj htoken, hdecode] at h
        cases h
    | ok found =>
      constructor
      · rintro ⟨⟩
        exact ⟨token, rfl, hdecode⟩
      · rintro ⟨token', htoken, h⟩
        rw [← Except.ok.inj htoken, hdecode] at h
        exact congrArg Except.ok (Except.ok.inj h)

/-- Nobody else is let in: one is told that the credential is no good, unless the library
breaks down at it. -/
theorem authenticate_eq_error {authorization : Option String} {stop : Stop}
    (h : gate.authenticate authorization = .error stop) :
    stop = .failure (.unauthenticated .invalidCredential) ∧
        ¬BreaksDown gate.decoder authorization ∨
      stop = .tooDeep ∧ BreaksDown gate.decoder authorization := by
  unfold authenticate at h
  cases hcredential : Bearer.credential authorization with
  | error denial =>
    have hdenial : denial = .invalidCredential := by
      unfold Bearer.credential at hcredential
      split at hcredential
      · cases hcredential
      · exact (Except.error.inj hcredential).symm
    rw [hcredential] at h
    cases h
    refine .inl ⟨by rw [hdenial], fun ⟨token, _, htoken, _⟩ => ?_⟩
    rw [hcredential] at htoken
    cases htoken
  | ok token =>
    rw [hcredential] at h
    dsimp only at h
    cases hdecode : Token.decode gate.decoder token with
    | ok claims =>
      rw [hdecode] at h
      cases h
    | error fault =>
      rw [hdecode] at h
      dsimp only at h
      by_cases hbreaks : gate.decoder.breaksAt fault = true
      · rw [if_pos hbreaks] at h
        cases h
        exact .inr ⟨rfl, token, fault, hcredential, hdecode, hbreaks⟩
      · rw [if_neg hbreaks] at h
        cases h
        refine .inl ⟨rfl, fun ⟨token', fault', htoken, hfault, h⟩ => hbreaks ?_⟩
        rw [hcredential] at htoken
        rw [← Except.ok.inj htoken, hdecode] at hfault
        rwa [Except.error.inj hfault]

/-- A call breaks down where the library does. -/
theorem authenticate_of_breaksDown {authorization : Option String}
    (h : BreaksDown gate.decoder authorization) :
    gate.authenticate authorization = .error .tooDeep := by
  cases hcaller : gate.authenticate authorization with
  | error stop =>
    rcases authenticate_eq_error hcaller with ⟨-, hwhole⟩ | ⟨rfl, -⟩
    · exact absurd h hwhole
    · rfl
  | ok claims =>
    obtain ⟨token, htoken, hdecode⟩ := authenticate_eq_ok.1 hcaller
    obtain ⟨token', fault, htoken', hfault, -⟩ := h
    obtain rfl := Except.ok.inj (htoken.symm.trans htoken')
    rw [hdecode] at hfault
    cases hfault

theorem screen_of_breaksDown (he : e.policy ≠ .everyone)
    (h : BreaksDown gate.decoder e.authorization) :
    (gate.screen now e c).1 = .error .tooDeep := by
  unfold screen
  rw [if_neg he, authenticate_of_breaksDown h]

/-- A call that the gate admits has claims that the policy allows. -/
theorem screen_eq_ok (he : e.policy ≠ .everyone) :
    gate.screen now e c = (.ok (), scope) ↔
      ∃ token claims, Bearer.credential e.authorization = .ok token ∧
        Token.decode gate.decoder token = .ok claims ∧
        e.policy.enforce (some claims) e.subject (some e.operation) now = .ok () ∧
        scope = identify claims c := by
  unfold screen
  rw [if_neg he]
  cases hcaller : gate.authenticate e.authorization with
  | error stop =>
    refine iff_of_false nofun fun ⟨token, claims, htoken, hclaims, _⟩ => ?_
    rw [authenticate_eq_ok.2 ⟨token, htoken, hclaims⟩] at hcaller
    cases hcaller
  | ok claims =>
    constructor
    · intro h
      obtain ⟨henforce, hscope⟩ := Prod.mk.inj h
      obtain ⟨token, htoken, hdecode⟩ := authenticate_eq_ok.1 hcaller
      exact ⟨token, claims, htoken, hdecode, henforce, hscope.symm⟩
    · rintro ⟨token, claims', htoken, hdecode, henforce, rfl⟩
      rw [authenticate_eq_ok.2 ⟨token, htoken, hdecode⟩] at hcaller
      rw [← Except.ok.inj hcaller]
      dsimp only
      rw [henforce]

/-- A caller with claims is up to the policy. -/
theorem screen_of_decode {token : String} {claims : Claims} (he : e.policy ≠ .everyone)
    (hcredential : Bearer.credential e.authorization = .ok token)
    (hdecode : Token.decode gate.decoder token = .ok claims) :
    (gate.screen now e c).1 =
      e.policy.enforce (some claims) e.subject (some e.operation) now := by
  unfold screen
  rw [if_neg he, authenticate_eq_ok.2 ⟨token, hcredential, hdecode⟩]

/-- A call that the gate does not admit is denied, whatever is wrong with it, unless the
library breaks down at its token. -/
theorem screen_denies (he : e.policy ≠ .everyone) (h : (gate.screen now e c).1 ≠ .ok ()) :
    (∃ denial, (gate.screen now e c).1 = .error (.failure (.unauthenticated denial))) ∨
      (gate.screen now e c).1 = .error .tooDeep ∧ BreaksDown gate.decoder e.authorization := by
  unfold screen at h ⊢
  rw [if_neg he] at h ⊢
  cases hcaller : gate.authenticate e.authorization with
  | error stop =>
    rcases authenticate_eq_error hcaller with ⟨rfl, -⟩ | ⟨rfl, hbreaks⟩
    · exact .inl ⟨_, rfl⟩
    · exact .inr ⟨rfl, hbreaks⟩
  | ok claims =>
    rw [hcaller] at h
    exact .inl (Policy.enforce_denies h)

/-- A call that is denied ends there. -/
theorem run_of_denied {σ α : Type} {requestId : String} {handler : Context → EStateM Stop σ α}
    {s : σ} {stop : Stop}
    (h : (gate.screen now e (c.enter requestId (scopeOf e))).1 = .error stop) :
    (gate.run requestId now e handler c s).result = .error stop s := by
  unfold run
  revert h
  obtain ⟨screened, scope⟩ := gate.screen now e (c.enter requestId (scopeOf e))
  rintro rfl
  rfl

/-- The work of a call that is denied is not started. -/
theorem seen_of_denied {σ α : Type} {requestId : String} {handler : Context → EStateM Stop σ α}
    {s : σ} {stop : Stop}
    (h : (gate.screen now e (c.enter requestId (scopeOf e))).1 = .error stop) :
    (gate.run requestId now e handler c s).seen = none := by
  unfold run
  revert h
  obtain ⟨screened, scope⟩ := gate.screen now e (c.enter requestId (scopeOf e))
  rintro rfl
  rfl

/-- What comes of work that is let in, in the time that there is. -/
def passed {σ α : Type} (gate : Gate) (e : Entrant) (x : EStateM Stop σ α) (s : σ) :
    EStateM.Result Stop σ α :=
  match gate.deadline.obstacle? e.operation with
  | some stop => .error stop s
  | none => gate.work e (fun _ => x) {} s

/-- A call that is let in comes to what its work comes to, if that does not look at the
context. -/
theorem run_of_passed {σ α : Type} {requestId : String} {x : EStateM Stop σ α} {s : σ}
    (h : (gate.screen now e (c.enter requestId (scopeOf e))).1 = .ok ()) :
    (gate.run requestId now e (fun _ => x) c s).result = gate.passed e x s := by
  unfold run passed
  revert h
  obtain ⟨screened, scope⟩ := gate.screen now e (c.enter requestId (scopeOf e))
  rintro rfl
  cases gate.deadline.obstacle? e.operation <;> rfl

/-- A call with a result was admitted, had time, and the result is that of its
work. -/
theorem run_eq_ok {σ α : Type} {requestId : String} {handler : Context → EStateM Stop σ α}
    {s s' : σ} {a : α} :
    (gate.run requestId now e handler c s).result = .ok a s' ↔
      ∃ scope, gate.screen now e (c.enter requestId (scopeOf e)) = (.ok (), scope) ∧
        gate.deadline.obstacle? e.operation = none ∧ handler scope s = .ok a s' := by
  unfold run
  obtain ⟨screened, scope⟩ := gate.screen now e (c.enter requestId (scopeOf e))
  cases screened with
  | error stop =>
    constructor
    · rintro ⟨⟩
    · rintro ⟨scope', ⟨⟩, -⟩
  | ok u =>
    dsimp only
    cases hobstacle : gate.deadline.obstacle? e.operation with
    | some stop =>
      constructor
      · rintro ⟨⟩
      · rintro ⟨scope', -, ⟨⟩, -⟩
    | none =>
      -- The gate changes the result of work that hangs, which is none.
      have hwork : gate.work e handler scope s = .ok a s' ↔ handler scope s = .ok a s' := by
        unfold work
        split
        · rename_i hhung
          rw [hhung]
          constructor
          · rintro ⟨⟩
          · rintro ⟨⟩
        · exact Iff.rfl
      constructor
      · intro h
        exact ⟨scope, rfl, rfl, hwork.1 h⟩
      · rintro ⟨scope', hscope, -, hhandler⟩
        rw [← (Prod.mk.inj hscope).2] at hhandler
        exact hwork.2 hhandler

end Gateway.Gate

end Guildhall
