/-
Guildhall/Proofs/Redaction.lean

The summary of the settings keeps the secrets.  Four variables are secret: the shared
secret, the address of the database and the paths of the two keys.  Two environments that
differ only in what these are, each being set in both or in neither and empty in both or in
neither, cannot be told apart by what loading and validating shows:

    SameButSecrets vars vars'  →  c.shown [(action, vars), …] = c.shown [(action, vars'), …]

A secret is a text, and every text can be read; so no issue ever quotes one, and all that is
asked of a secret later is whether it is empty.  What is left of the settings when each
secret is put out (`Loading.redact`) therefore says everything that the summary says.

Main statements: `redact_load`, `alike_perform` and `summary_keeps_secrets`.
-/
import Guildhall.Proofs.Fields
import Guildhall.Proofs.Loading

namespace Guildhall

namespace Settings

variable {vars vars' : Variables} {key : String} {l l' : Loading}

/-! ### Secrets -/

/-- The variables whose values are to stay secret. -/
def secretKeys : List String :=
  ["JWT_SECRET", "DATABASE_URL", "JWT_PRIVATE_KEY_PATH", "JWT_PUBLIC_KEY_PATH"]

/-- Environments that differ only in what their secrets are. -/
structure SameButSecrets (vars vars' : Variables) : Prop where
  elsewhere : ∀ key, key ∉ secretKeys → vars.lookup key = vars'.lookup key
  /-- A secret is set in both or in neither, and it is empty in both or in neither. -/
  shape : ∀ key ∈ secretKeys,
    (vars.lookup key).map String.isEmpty = (vars'.lookup key).map String.isEmpty

/-- A text that is put out: all that is left is whether it was empty. -/
def redactText (t : String) : String := if t.isEmpty then "" else "*"

theorem redactText_congr {t u : String} (h : t.isEmpty = u.isEmpty) :
    redactText t = redactText u := by
  unfold redactText
  rw [h]

@[simp] theorem isEmpty_redactText (t : String) : (redactText t).isEmpty = t.isEmpty := by
  unfold redactText
  cases h : t.isEmpty with
  | true => rfl
  | false => rfl

/-- An environment whose secrets are put out. -/
def redactVariables (vars : Variables) : Variables :=
  vars.map fun (key, t) => (key, if key ∈ secretKeys then redactText t else t)

theorem lookup_redactVariables (vars : Variables) (key : String) :
    (redactVariables vars).lookup key =
      (vars.lookup key).map fun t => if key ∈ secretKeys then redactText t else t :=
  lookup_mapValues (fun name t => if name ∈ secretKeys then redactText t else t) vars key

/-- An environment differs only in its secrets from what is left when they are put out. -/
theorem sameButSecrets_redact (vars : Variables) : SameButSecrets vars (redactVariables vars) where
  elsewhere key hkey := by
    rw [lookup_redactVariables, funext fun t => if_neg hkey, Option.map_id']
  shape key hkey := by
    rw [lookup_redactVariables, funext fun t => if_pos hkey, Option.map_map]
    exact congrArg (Option.map · _) (funext fun t => (isEmpty_redactText t).symm)

/-! ### Settings without their secrets -/

/-- Settings whose secrets are put out. -/
def redact (s : Settings) : Settings :=
  { s with
    databaseUrl := redactText s.databaseUrl
    jwtSecret := redactText s.jwtSecret
    privateKeyPath := redactText s.privateKeyPath
    publicKeyPath := redactText s.publicKeyPath }

/-- A setting that is put out if it is a secret. -/
def redactField : String × Value → String × Value
  | (key, .text t) => (key, .text (if key ∈ secretKeys then redactText t else t))
  | field => field

theorem fields_redact (s : Settings) : s.redact.fields = s.fields.map redactField := by
  have hopen : ∀ b? : Option Bool,
      redactField ("LOG_JSON", (b?.map Value.bool).getD .null) =
        ("LOG_JSON", (b?.map Value.bool).getD .null) := by
    rintro (_ | b) <;> rfl
  unfold fields
  simp only [List.map_cons, List.map_nil, hopen]
  rfl

/-- What was loaded, with the secrets put out. -/
def Loading.redact (l : Loading) : Loading := { l with settings := l.settings.redact }

/-- What may be logged of what was loaded. -/
def Loading.summary (l : Loading) : List (String × Value) :=
  l.settings.summary l.fromEnv (l.issues.map Issue.message)

/-- The summary says nothing that the secrets would have to be known for. -/
theorem summary_redact (l : Loading) : l.redact.summary = l.summary := rfl

theorem summary_congr (h : l.redact = l'.redact) : l.summary = l'.summary := by
  rw [← summary_redact, h, summary_redact]

/-! ### Loading -/

/-- The secrets are texts. -/
theorem text_of_mem_secretKeys :
    ∀ entry ∈ rules, entry.1 ∈ secretKeys → ∃ t, entry.2 = .text t := by
  simp only [rules, List.forall_mem_cons]
  -- A row of the table is a text, or its name is none of the four.
  and_intros
  all_goals first
    | exact fun _ => ⟨_, rfl⟩
    | exact fun h => absurd h (by decide)
    | exact fun _ h => absurd h List.not_mem_nil

/-- Where a setting is from does not depend on what a secret is, and neither does its value
once the secrets are put out. -/
theorem redact_read (h : SameButSecrets vars vars') {entry : String × Rule}
    (hentry : entry ∈ rules) :
    originOf vars entry = originOf vars' entry ∧
      redactField (valueOf vars entry) = redactField (valueOf vars' entry) := by
  obtain ⟨key, rule⟩ := entry
  by_cases hkey : key ∈ secretKeys
  · obtain ⟨t, rfl⟩ := text_of_mem_secretKeys _ hentry hkey
    have hshape := h.shape key hkey
    simp only [originOf, valueOf, Rule.read, Rule.parse, Rule.fallback]
    -- A text is never turned down, so the default stands only where the secret is not set.
    cases hvars : vars.lookup key <;> cases hvars' : vars'.lookup key <;>
      rw [hvars, hvars'] at hshape
    · exact ⟨rfl, rfl⟩
    · cases hshape
    · cases hshape
    · refine ⟨rfl, ?_⟩
      simp only [redactField, if_pos hkey, redactText_congr (Option.some.inj hshape)]
  · simp only [originOf, valueOf, Rule.read, h.elsewhere key hkey, and_self]

/-- **What is loaded is the same but for the secrets.** -/
theorem redact_load (h : SameButSecrets vars vars') : (load vars).redact = (load vars').redact := by
  obtain ⟨hfields, hfromEnv, hissues⟩ := load_eq vars
  obtain ⟨hfields', hfromEnv', hissues'⟩ := load_eq vars'
  have horigins : rules.map (originOf vars) = rules.map (originOf vars') :=
    List.map_congr_left fun entry hentry => (redact_read h hentry).1
  have hsettings : (load vars).settings.redact = (load vars').settings.redact := by
    apply fields_injective
    rw [fields_redact, fields_redact, hfields, hfields', List.map_map, List.map_map]
    exact List.map_congr_left fun entry hentry => (redact_read h hentry).2
  rw [Loading.redact, Loading.redact, hsettings, hfromEnv, hissues, horigins, ← hfromEnv',
    ← hissues']

/-! ### Validation -/

theorem redact_fixLevel (l : Loading) : l.fixLevel.redact = l.redact.fixLevel := by
  unfold Loading.fixLevel
  -- The level is no secret.
  show (if knownLevels.contains l.settings.logLevel then l else _).redact =
    if knownLevels.contains l.settings.logLevel then l.redact else _
  split <;> rfl

/-- A key is missing with or without the secrets, since it is missing where it is empty. -/
theorem keyIssue_redact (s : Settings) : keyIssue s.redact = keyIssue s := by
  unfold keyIssue redact
  rw [isEmpty_redactText, isEmpty_redactText]

/-- The secrets can be put out before what was loaded is checked as well. -/
theorem redact_checked (l : Loading) : l.checked.redact = l.redact.checked := by
  unfold Loading.checked
  rw [← redact_fixLevel]
  dsimp only [Loading.redact]
  rw [keyIssue_redact]

/-- A database is named in both environments or in neither. -/
theorem lacksDatabase_congr (h : SameButSecrets vars vars') {s s' : Settings}
    (hs : s.redact = s'.redact) : lacksDatabase vars s = lacksDatabase vars' s' := by
  have hproduction : s.redact.isProduction = s'.redact.isProduction := by rw [hs]
  have hempty : ((vars.lookup "DATABASE_URL").getD "").isEmpty =
      ((vars'.lookup "DATABASE_URL").getD "").isEmpty := by
    have hshape := h.shape "DATABASE_URL" (by decide)
    generalize vars.lookup "DATABASE_URL" = url at hshape
    generalize vars'.lookup "DATABASE_URL" = url' at hshape
    cases url with
    | none =>
      cases url' with
      | none => rfl
      | some _ => nomatch hshape
    | some _ =>
      cases url' with
      | none => nomatch hshape
      | some _ => exact Option.some.inj hshape
  show (s.redact.isProduction && _) = (s'.redact.isProduction && _)
  rw [hproduction, hempty]

end Settings

open Settings

namespace Configuration

variable {vars vars' : Variables} {c c' : Configuration}

/-- Configurations that are the same but for the secrets, and for what was logged of them
before the log was set up. -/
structure Alike (c c' : Configuration) : Prop where
  loading : c.loading.redact = c'.loading.redact
  validated : c.validated = c'.validated

/-- How the calls of a process end, and the summary after each of them. -/
def shown (c : Configuration) :
    List (Action × Variables) → List (Except Stop Unit × List (String × Value))
  | [] => []
  | call :: rest =>
    ((c.perform call).1, (c.perform call).2.loading.summary) :: (c.perform call).2.shown rest

/-- A call comes to the same end, and leaves what is the same but for the secrets. -/
theorem alike_perform (h : SameButSecrets vars vars') (hc : c.Alike c') (action : Action) :
    (c.perform (action, vars)).1 = (c'.perform (action, vars')).1 ∧
      (c.perform (action, vars)).2.Alike (c'.perform (action, vars')).2 := by
  cases action with
  | load =>
    refine ⟨rfl, ?_, hc.validated⟩
    rw [perform, perform, load_eq_load, load_eq_load]
    exact redact_load h
  | validate =>
    have hloading : (Settings.load vars).checked.redact = (Settings.load vars').checked.redact := by
      rw [redact_checked, redact_load h, ← redact_checked]
    have hlacks := lacksDatabase_congr h (congrArg Loading.settings hloading)
    rw [perform, perform, validate, validate, hc.validated, load_eq_load, load_eq_load]
    dsimp only
    split
    · exact ⟨rfl, hc⟩
    · rw [hlacks]
      split
      · exact ⟨rfl, hloading, rfl⟩
      · exact ⟨rfl, hloading, rfl⟩

/-- The same holds of whole runs. -/
theorem shown_congr {calls calls' : List (Action × Variables)}
    (h : List.Forall₂ (fun call call' => call.1 = call'.1 ∧ SameButSecrets call.2 call'.2)
      calls calls') (hc : c.Alike c') : c.shown calls = c'.shown calls' := by
  induction h generalizing c c' with
  | nil => rfl
  | @cons call call' calls calls' hcall _ ih =>
    obtain ⟨action, vars⟩ := call
    obtain ⟨action', vars'⟩ := call'
    obtain ⟨rfl, hvars⟩ := hcall
    obtain ⟨hend, hafter⟩ := alike_perform hvars hc action
    rw [shown, shown, hend, summary_congr hafter.loading, ih hafter]

end Configuration

/-- **The summary keeps the secrets.**  Whatever is loaded and validated, in environments
that may change between the calls: each call succeeds or fails alike, and the summaries
after it are identical, if the environments differ only in what their secrets are.  So the
secrets might as well have been put out before anything was read. -/
theorem summary_keeps_secrets (c c' : Configuration) (hc : c.Alike c')
    (calls calls' : List (Configuration.Action × Variables))
    (h : List.Forall₂ (fun call call' => call.1 = call'.1 ∧ SameButSecrets call.2 call'.2)
      calls calls') :
    c.shown calls = c'.shown calls' ∧
      c.shown (calls.map fun call => (call.1, redactVariables call.2)) = c.shown calls := by
  refine ⟨Configuration.shown_congr h hc, (Configuration.shown_congr ?_ ⟨rfl, rfl⟩).symm⟩
  rw [List.forall₂_map_right_iff]
  exact List.forall₂_same.2 fun call _ => ⟨rfl, sameButSecrets_redact call.2⟩

namespace Vault

/-- Variables of production with a shared secret, an address of the database, and a port that
is out of bounds. -/
def vault (secret url : String) : Variables :=
  [("ENVIRONMENT", "production"), ("JWT_ALGORITHM", "HS256"), ("JWT_SECRET", secret),
    ("DATABASE_URL", url), ("SERVER_PORT", "65536")]

theorem sameButSecrets_vault {secret secret' url url' : String}
    (hsecret : secret.isEmpty = secret'.isEmpty) (hurl : url.isEmpty = url'.isEmpty) :
    SameButSecrets (vault secret url) (vault secret' url') where
  elsewhere key hkey := by
    have h : key ≠ "JWT_SECRET" ∧ key ≠ "DATABASE_URL" := by
      constructor <;> rintro rfl <;> exact hkey (by decide)
    simp only [vault, List.lookup_cons, beq_eq_false_iff_ne.2 h.1, beq_eq_false_iff_ne.2 h.2]
  shape key hkey := by
    simp only [secretKeys, List.mem_cons, List.not_mem_nil, or_false] at hkey
    rcases hkey with rfl | rfl | rfl | rfl
    · exact congrArg some hsecret
    · exact congrArg some hurl
    · rfl
    · rfl

end Vault

open Vault in
/-- Production starts with either secret, and reports the port. -/
theorem summary_keeps_secrets_vault :
    Configuration.shown {} [(.validate, vault "rose" "postgresql://castle/hall")] =
        Configuration.shown {} [(.validate, vault "thorn" "sqlite:///cellar")] ∧
      (Configuration.validate (vault "rose" "postgresql://castle/hall") {}).1 = .ok () ∧
      (Configuration.validate (vault "rose" "postgresql://castle/hall") {}).2.loading.issues.map
          Issue.message =
        ["SERVER_PORT='65536' ignored (above 65535); using 8080"] := by
  have hcalls := (summary_keeps_secrets {} {} ⟨rfl, rfl⟩
    [(.validate, vault "rose" "postgresql://castle/hall")]
    [(.validate, vault "thorn" "sqlite:///cellar")]
    (.cons ⟨rfl, sameButSecrets_vault (by decide) (by decide)⟩ .nil)).1
  exact ⟨hcalls, rfl, by decide +kernel⟩

end Guildhall
