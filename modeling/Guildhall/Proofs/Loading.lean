/-
Guildhall/Proofs/Loading.lean

Loading, setting by setting.  Every setting has a rule: how its variable is read, within
which bounds, and what it is otherwise (`rules`).  Settings that are held already are
loaded again by clearing the list of the variables that were taken and the list of the
issues, and then setting one after the other (`reload`).  What was held before leaves no
trace in that, so it is the same as loading them where nothing is held:

    reload vars before  =  load vars

Each setting is accounted for (`Accounted`): it is what its variable says, and the
variable is listed, once; or it is its default, and the variable is unset or has one issue.

A validation loads and checks the settings, unless one before it did.  It fails in
production without the address of a database and in no other way, and puts the level of the
log right.  What is loaded after that is not checked again: the level is then what the last
loading left (`logLevel_afterAll`), and it may be an unknown one.

Main statements: `reload_eq_load`, `accounted`, `Configuration.validate_first` and
`loading_accounts`.
-/
import Guildhall.Proofs.WholeNumber
import Guildhall.Settings.Loading
import Mathlib.Data.List.Induction

namespace Guildhall

namespace Settings

variable {vars : Variables} {key : String} {l before : Loading} {s t : Settings}

/-! ### Rules -/

namespace Rule

/-- The values that a setting can have. -/
def Allows : Rule → Value → Prop
  | text _, v | level _, v => ∃ t, v = .text t
  | flag none, v => ∃ b? : Option Bool, v = (b?.map Value.bool).getD .null
  | flag (some _), v => ∃ b, v = .bool b
  | number _ low high, v => ∃ n, v = .int n ∧ Input.Within low high n

/-- A default within the bounds. -/
def IsSound : Rule → Bool
  | number n low high => low.all (· ≤ n) && high.all (n ≤ ·)
  | _ => true

end Rule

theorem nodup_rules : (rules.map Prod.fst).Nodup := by decide

/-- The names of the settings are those of the rules. -/
theorem names_fields (s : Settings) : s.fields.map Prod.fst = rules.map Prod.fst := rfl

/-- A number passes if it is one and is within the bounds. -/
theorem parseNumber_eq_ok {low high : Option Int} {raw : String} {n : Int} :
    parseNumber low high raw = .ok n ↔
      Text.Numeral.read raw = .ok n ∧ Input.Within low high n := by
  unfold parseNumber Input.Within
  cases Text.Numeral.read raw with
  | error fault => cases fault <;> simp
  | ok k =>
    cases low <;> cases high <;> simp <;> grind

/-- What a variable says is a value that its setting can have. -/
theorem allows_of_parse {rule : Rule} {raw : String} {v : Value} (h : rule.parse raw = .ok v) :
    rule.Allows v := by
  cases rule with
  | text t =>
    cases h
    exact ⟨raw, rfl⟩
  | level t =>
    cases h
    exact ⟨_, rfl⟩
  | flag b? =>
    rw [Rule.parse] at h
    obtain ⟨b, -, rfl⟩ := Except.map_eq_ok.1 h
    cases b? with
    | none => exact ⟨some b, rfl⟩
    | some _ => exact ⟨b, rfl⟩
  | number n low high =>
    rw [Rule.parse] at h
    obtain ⟨k, hk, rfl⟩ := Except.map_eq_ok.1 h
    exact ⟨k, rfl, (parseNumber_eq_ok.1 hk).2⟩

theorem isSound_rules : ∀ entry ∈ rules, entry.2.IsSound = true := by decide

/-- A sound default is a value that its setting can have. -/
theorem allows_fallback {rule : Rule} (h : rule.IsSound = true) : rule.Allows rule.fallback := by
  cases rule with
  | text t => exact ⟨t, rfl⟩
  | level t => exact ⟨_, rfl⟩
  | flag b? =>
    cases b? with
    | none => exact ⟨none, rfl⟩
    | some b => exact ⟨b, rfl⟩
  | number n low high =>
    simp only [Rule.IsSound, Bool.and_eq_true, Option.all_eq_true, decide_eq_true_eq] at h
    exact ⟨n, rfl, h⟩

/-- Every setting has a value that it can have, whatever its variable is. -/
theorem allows_valueOf (vars : Variables) {entry : String × Rule} (h : entry ∈ rules) :
    entry.2.Allows (valueOf vars entry).2 := by
  have hfallback := allows_fallback (isSound_rules entry h)
  unfold valueOf Rule.read
  cases vars.lookup entry.1 with
  | none => exact hfallback
  | some raw =>
    dsimp only
    cases hparse : entry.2.parse raw with
    | ok v => exact allows_of_parse hparse
    | error reason => exact hfallback

/-- To set a setting changes its field and nothing else. -/
theorem fields_assign : ∀ entry ∈ rules, ∀ v, entry.2.Allows v →
    (s.assign entry.1 v).fields = Value.put entry.1 v s.fields := by
  simp only [rules, List.forall_mem_cons, Rule.Allows]
  -- There is one case for each row of the table.
  and_intros
  all_goals first
    | rintro _ ⟨t, rfl⟩; rfl
    | rintro _ ⟨n, rfl, -⟩; rfl
    | rintro _ ⟨_ | _, rfl⟩ <;> rfl

/-! ### Loading one setting after the other -/

theorem takenKeys_append (before after : List (String × Origin)) :
    takenKeys (before ++ after) = takenKeys before ++ takenKeys after :=
  List.filterMap_append

theorem issuesOf_append (before after : List (String × Origin)) :
    issuesOf (before ++ after) = issuesOf before ++ issuesOf after :=
  List.filterMap_append

theorem foldl_loadOne (vars : Variables) (l : Loading) {entries : List (String × Rule)}
    (h : ∀ entry ∈ entries, entry ∈ rules) :
    (entries.foldl (loadOne vars) l).settings.fields =
        entries.foldl (fun fields entry => Value.put entry.1 (valueOf vars entry).2 fields)
          l.settings.fields ∧
      (entries.foldl (loadOne vars) l).fromEnv =
        l.fromEnv ++ takenKeys (entries.map (originOf vars)) ∧
      (entries.foldl (loadOne vars) l).issues =
        l.issues ++ issuesOf (entries.map (originOf vars)) := by
  induction entries generalizing l with
  | nil => exact ⟨rfl, (List.append_nil _).symm, (List.append_nil _).symm⟩
  | cons entry entries ih =>
    rw [List.forall_mem_cons] at h
    obtain ⟨hfields, hfromEnv, hissues⟩ := ih (loadOne vars l entry) h.2
    rw [List.foldl_cons, List.foldl_cons, hfields, hfromEnv, hissues, List.map_cons,
      ← List.singleton_append, takenKeys_append, issuesOf_append, ← List.append_assoc,
      ← List.append_assoc, ← fields_assign entry h.1 _ (allows_valueOf vars h.1)]
    exact ⟨rfl, rfl, rfl⟩

theorem put_append {fields rest : List (String × Value)} {v : Value}
    (h : key ∉ fields.map Prod.fst) :
    Value.put key v (fields ++ rest) = fields ++ Value.put key v rest := by
  induction fields with
  | nil => rfl
  | cons field fields ih =>
    rw [List.map_cons, List.mem_cons, not_or] at h
    rw [List.cons_append, Value.put, if_neg (Ne.symm h.1), ih h.2]
    rfl

/-- Fields that are all set hold nothing of what they held. -/
theorem foldl_put (vars : Variables) (done : List (String × Value))
    {entries : List (String × Rule)} {rest : List (String × Value)}
    (hrest : rest.map Prod.fst = entries.map Prod.fst)
    (hnodup : (done.map Prod.fst ++ entries.map Prod.fst).Nodup) :
    entries.foldl (fun fields entry => Value.put entry.1 (valueOf vars entry).2 fields)
      (done ++ rest) = done ++ entries.map (valueOf vars) := by
  induction entries generalizing done rest with
  | nil => rw [List.map_eq_nil_iff.1 hrest]; rfl
  | cons entry entries ih =>
    obtain ⟨⟨_, old⟩, rest, rfl, rfl, htail⟩ := List.map_eq_cons_iff.1 hrest
    have hnew : entry.1 ∉ done.map Prod.fst := by
      rw [List.map_cons, List.nodup_append] at hnodup
      exact fun hmem => hnodup.2.2 _ hmem _ List.mem_cons_self rfl
    have hset : Value.put entry.1 (valueOf vars entry).2 ((entry.1, old) :: rest) =
        [valueOf vars entry] ++ rest := if_pos rfl
    rw [List.foldl_cons, put_append hnew, hset, ← List.append_assoc, ih _ htail]
    · rw [List.append_assoc]
      rfl
    · simpa [valueOf] using hnodup

theorem fields_injective (h : s.fields = t.fields) : s = t := by
  have hflag : ∀ x y : Option Bool,
      (x.map Value.bool).getD .null = (y.map Value.bool).getD .null → x = y := by
    rintro (_ | x) (_ | y) h <;> cases h <;> rfl
  obtain ⟨⟩ := s
  obtain ⟨⟩ := t
  simp only [fields, List.cons.injEq, Prod.mk.injEq, Value.text.injEq, Value.bool.injEq,
    Value.int.injEq, true_and, and_true] at h
  rw [mk.injEq]
  obtain ⟨h1, h2, h3, h4, h⟩ := h
  exact ⟨h1, h2, h3, hflag _ _ h4, h⟩

/-- The settings and where they are from, as their rules say. -/
theorem reload_eq (vars : Variables) (before : Loading) :
    (reload vars before).settings.fields = rules.map (valueOf vars) ∧
      (reload vars before).fromEnv = takenKeys (rules.map (originOf vars)) ∧
      (reload vars before).issues = issuesOf (rules.map (originOf vars)) := by
  obtain ⟨hfields, hfromEnv, hissues⟩ := foldl_loadOne vars
    { before with fromEnv := [], issues := [] } fun entry (h : entry ∈ rules) => h
  have hput := foldl_put vars [] (names_fields before.settings) nodup_rules
  exact ⟨hfields.trans hput, hfromEnv, hissues⟩

theorem load_eq (vars : Variables) : (load vars).settings.fields = rules.map (valueOf vars) ∧
    (load vars).fromEnv = takenKeys (rules.map (originOf vars)) ∧
    (load vars).issues = issuesOf (rules.map (originOf vars)) :=
  reload_eq vars {}

/-- **What was held before leaves no trace**: settings that are loaded again are the same as
those that are loaded where nothing is held. -/
theorem reload_eq_load (vars : Variables) (before : Loading) : reload vars before = load vars := by
  obtain ⟨hfields, hfromEnv, hissues⟩ := reload_eq vars before
  obtain ⟨hfields', hfromEnv', hissues'⟩ := load_eq vars
  have hsettings := fields_injective (hfields.trans hfields'.symm)
  have hext : ∀ {a b : Loading}, a.settings = b.settings → a.fromEnv = b.fromEnv →
      a.issues = b.issues → a = b := by
    rintro ⟨⟩ ⟨⟩ rfl rfl rfl
    rfl
  exact hext hsettings (hfromEnv.trans hfromEnv'.symm) (hissues.trans hissues'.symm)

/-! ### Accounts -/

/-- The variable that an issue of loading is about. -/
def Issue.key? : Issue → Option String
  | .ignored key .. => some key
  | _ => none

/-- The issues about a variable. -/
def Loading.issuesAbout (l : Loading) (key : String) : List Issue :=
  l.issues.filter fun issue => issue.key? = some key

/-- What became of a setting: its variable was taken and is listed once, or it was unset, or
it is the one variable that an issue is about, once. -/
inductive Accounted (vars : Variables) (l : Loading) (key : String) (rule : Rule) : Prop
  | taken {raw : String} {v : Value} (hraw : vars.lookup key = some raw)
      (hparse : rule.parse raw = .ok v) (hvalue : l.settings.fields.lookup key = some v)
      (hlisted : l.fromEnv.count key = 1) (hissues : l.issuesAbout key = [])
  | unset (hraw : vars.lookup key = none)
      (hvalue : l.settings.fields.lookup key = some rule.fallback)
      (hlisted : l.fromEnv.count key = 0) (hissues : l.issuesAbout key = [])
  | ignored {raw : String} {reason : Reason} (hraw : vars.lookup key = some raw)
      (hparse : rule.parse raw = .error reason)
      (hvalue : l.settings.fields.lookup key = some rule.fallback)
      (hlisted : l.fromEnv.count key = 0)
      (hissues : l.issuesAbout key = [.ignored key raw reason rule.fallback])

/-- An origin is that of the rule and the variable. -/
theorem origin_read (vars : Variables) (key : String) (rule : Rule) :
    vars.lookup key = none ∧ rule.read vars key = ⟨rule.fallback, .unset⟩ ∨
      (∃ raw v, vars.lookup key = some raw ∧ rule.parse raw = .ok v ∧
        rule.read vars key = ⟨v, .variable⟩) ∨
      ∃ raw reason, vars.lookup key = some raw ∧ rule.parse raw = .error reason ∧
        rule.read vars key =
          ⟨rule.fallback, .fallback (.ignored key raw reason rule.fallback)⟩ := by
  unfold Rule.read
  cases vars.lookup key with
  | none => exact .inl ⟨rfl, rfl⟩
  | some raw =>
    dsimp only
    cases hparse : rule.parse raw with
    | ok v => exact .inr (.inl ⟨raw, v, rfl, hparse, rfl⟩)
    | error reason => exact .inr (.inr ⟨raw, reason, rfl, hparse, rfl⟩)

/-- What is listed was set, and was read. -/
theorem read_of_mem_takenKeys {entries : List (String × Rule)}
    (h : key ∈ takenKeys (entries.map (originOf vars))) :
    ∃ rule raw v, (key, rule) ∈ entries ∧ vars.lookup key = some raw ∧
      rule.parse raw = .ok v := by
  obtain ⟨_, hmem, hkey⟩ := List.mem_filterMap.1 h
  obtain ⟨⟨name, rule⟩, hentry, rfl⟩ := List.mem_map.1 hmem
  dsimp only [originOf] at hkey
  rcases origin_read vars name rule with ⟨-, hread⟩ |
    ⟨raw, v, hraw, hparse, hread⟩ | ⟨raw, reason, -, -, hread⟩
  · rw [hread] at hkey
    cases hkey
  · rw [hread] at hkey
    cases hkey
    exact ⟨rule, raw, v, hentry, hraw, hparse⟩
  · rw [hread] at hkey
    cases hkey

/-- What is reported was set, and could not be read. -/
theorem ignored_of_mem_issuesOf {entries : List (String × Rule)} {issue : Issue}
    (h : issue ∈ issuesOf (entries.map (originOf vars))) :
    ∃ name rule raw reason, (name, rule) ∈ entries ∧ vars.lookup name = some raw ∧
      rule.parse raw = .error reason ∧ issue = .ignored name raw reason rule.fallback := by
  obtain ⟨_, hmem, hissue⟩ := List.mem_filterMap.1 h
  obtain ⟨⟨name, rule⟩, hentry, rfl⟩ := List.mem_map.1 hmem
  dsimp only [originOf] at hissue
  rcases origin_read vars name rule with ⟨-, hread⟩ |
    ⟨raw, v, -, -, hread⟩ | ⟨raw, reason, hraw, hparse, hread⟩
  · rw [hread] at hissue
    cases hissue
  · rw [hread] at hissue
    cases hissue
  · rw [hread] at hissue
    cases hissue
    exact ⟨name, rule, raw, reason, hentry, hraw, hparse, rfl⟩

/-- The table of the rules has each name once, so it can be cut at a rule. -/
theorem exists_cut {rule : Rule} (h : (key, rule) ∈ rules) :
    ∃ before after, rules = before ++ [(key, rule)] ++ after ∧
      key ∉ before.map Prod.fst ∧ key ∉ after.map Prod.fst := by
  obtain ⟨before, after, hcut⟩ := List.append_of_mem h
  have hnodup := nodup_rules
  rw [hcut, List.map_append, List.map_cons, List.nodup_append, List.nodup_cons] at hnodup
  refine ⟨before, after, by rw [hcut, List.append_assoc]; rfl, fun hmem => ?_, hnodup.2.1.1⟩
  exact hnodup.2.2 _ hmem _ List.mem_cons_self rfl

theorem count_takenKeys {entries : List (String × Rule)} (h : key ∉ entries.map Prod.fst) :
    (takenKeys (entries.map (originOf vars))).count key = 0 := by
  refine List.count_eq_zero.2 fun hmem => ?_
  obtain ⟨rule, -, -, hentry, -⟩ := read_of_mem_takenKeys hmem
  exact h (List.mem_map_of_mem hentry)

theorem filter_issuesOf {entries : List (String × Rule)} (h : key ∉ entries.map Prod.fst) :
    (issuesOf (entries.map (originOf vars))).filter
      (fun issue => issue.key? = some key) = [] := by
  refine List.filter_eq_nil_iff.2 fun issue hmem hkey => ?_
  obtain ⟨name, rule, raw, reason, hentry, -, -, rfl⟩ := ignored_of_mem_issuesOf hmem
  obtain rfl := Option.some.inj (of_decide_eq_true hkey)
  exact h (List.mem_map_of_mem hentry)

theorem lookup_valueOf {entries : List (String × Rule)} (h : key ∉ entries.map Prod.fst) :
    (entries.map (valueOf vars)).lookup key = none := by
  refine List.lookup_eq_none_iff.2 fun field hmem => ?_
  obtain ⟨entry, hentry, rfl⟩ := List.mem_map.1 hmem
  exact bne_iff_ne.2 fun heq => h (List.mem_map.2 ⟨entry, hentry, heq.symm⟩)

/-- A setting, its place in the list of variables and its issues are what its rule says. -/
theorem load_of_mem (vars : Variables) {rule : Rule} (h : (key, rule) ∈ rules) :
    (load vars).settings.fields.lookup key = some (rule.read vars key).value ∧
      (load vars).fromEnv.count key = (takenKeys [originOf vars (key, rule)]).count key ∧
      (load vars).issuesAbout key =
        (issuesOf [originOf vars (key, rule)]).filter fun issue => issue.key? = some key := by
  obtain ⟨hfields, hfromEnv, hissues⟩ := load_eq vars
  obtain ⟨before, after, hcut, hbefore, hafter⟩ := exists_cut h
  rw [hcut, List.map_append, List.map_append] at hfields hfromEnv hissues
  refine ⟨?_, ?_, ?_⟩
  · rw [hfields, List.lookup_append, List.lookup_append, lookup_valueOf hbefore, Option.none_or,
      List.map_singleton, valueOf, List.lookup_cons_self, Option.some_or]
  · rw [hfromEnv, takenKeys_append, takenKeys_append, List.count_append, List.count_append,
      count_takenKeys hbefore, count_takenKeys hafter, Nat.zero_add, Nat.add_zero,
      List.map_singleton]
  · rw [Loading.issuesAbout, hissues, issuesOf_append, issuesOf_append, List.filter_append,
      List.filter_append, filter_issuesOf hbefore, filter_issuesOf hafter, List.nil_append,
      List.append_nil, List.map_singleton]

/-- **Every setting is accounted for.** -/
theorem accounted {rule : Rule} (h : (key, rule) ∈ rules) :
    Accounted vars (load vars) key rule := by
  obtain ⟨hvalue, hlisted, hissues⟩ := load_of_mem vars h
  dsimp only [originOf] at hlisted hissues
  rcases origin_read vars key rule with ⟨hraw, hread⟩ |
    ⟨raw, v, hraw, hparse, hread⟩ | ⟨raw, reason, hraw, hparse, hread⟩
  · rw [hread] at hvalue hlisted hissues
    exact .unset hraw hvalue hlisted hissues
  · rw [hread] at hvalue hlisted hissues
    refine .taken hraw hparse hvalue (hlisted.trans ?_) hissues
    exact List.count_singleton_self
  · rw [hread] at hvalue hlisted hissues
    refine .ignored hraw hparse hvalue hlisted (hissues.trans ?_)
    exact List.filter_cons_of_pos (decide_eq_true rfl)

/-- A number is within the bounds of its rule. -/
theorem bounded {n : Int} {low high : Option Int} (h : (key, .number n low high) ∈ rules) :
    ∃ k, (load vars).settings.fields.lookup key = some (.int k) ∧ Input.Within low high k := by
  obtain ⟨hvalue, -, -⟩ := load_of_mem vars h
  obtain ⟨k, hk, hwithin⟩ := allows_valueOf vars h
  exact ⟨k, hvalue.trans (congrArg some hk), hwithin⟩

/-- What loading is to give: every setting has a rule and is accounted for, the numbers are
within their bounds, and nothing is listed or reported but what was set. -/
structure Faithful (vars : Variables) (l : Loading) : Prop where
  names : l.settings.fields.map Prod.fst = rules.map Prod.fst
  accounted : ∀ key rule, (key, rule) ∈ rules → Accounted vars l key rule
  bounded : ∀ key n low high, (key, .number n low high) ∈ rules →
    ∃ k, l.settings.fields.lookup key = some (.int k) ∧ Input.Within low high k
  listed : ∀ key ∈ l.fromEnv, ∃ rule raw v, (key, rule) ∈ rules ∧
    vars.lookup key = some raw ∧ rule.parse raw = .ok v
  reported : ∀ issue ∈ l.issues, ∃ key rule raw reason, (key, rule) ∈ rules ∧
    vars.lookup key = some raw ∧ rule.parse raw = .error reason ∧
      issue = .ignored key raw reason rule.fallback

theorem faithful_load (vars : Variables) : Faithful vars (load vars) := by
  obtain ⟨-, hfromEnv, hissues⟩ := load_eq vars
  exact
    { names := names_fields _
      accounted := fun key rule h => Settings.accounted h
      bounded := fun key n low high h => Settings.bounded h
      listed := fun key h => read_of_mem_takenKeys (hfromEnv ▸ h)
      reported := fun issue h => ignored_of_mem_issuesOf (hissues ▸ h) }

/-! ### Validation -/

theorem isProduction_iff :
    s.isProduction = true ↔ Text.lower (Text.strip s.environment) = "production" := by
  unfold isProduction runsIn Environment.ofText
  rw [beq_iff_eq]
  dsimp only
  constructor
  · intro h
    split at h
    · cases h
    · split at h
      · cases h
      · split at h
        · assumption
        · cases h
  · intro h
    rw [h]
    rfl

/-- A text is what its variable says, or its default. -/
theorem value_text (vars : Variables) (key t : String) :
    ((Rule.text t).read vars key).value = .text ((vars.lookup key).getD t) := by
  unfold Rule.read
  cases vars.lookup key <;> rfl

theorem value_level (vars : Variables) (key t : String) :
    ((Rule.level t).read vars key).value = .text (Text.upper ((vars.lookup key).getD t)) := by
  unfold Rule.read
  cases vars.lookup key <;> rfl

theorem environment_load (vars : Variables) :
    (load vars).settings.environment = (vars.lookup "ENVIRONMENT").getD "development" := by
  obtain ⟨hvalue, -, -⟩ := load_of_mem vars (List.mem_cons_self : ("ENVIRONMENT", _) ∈ rules)
  rw [value_text] at hvalue
  exact Value.text.inj (Option.some.inj hvalue)

/-- The level of the log that is loaded is any text. -/
theorem logLevel_load (vars : Variables) :
    (load vars).settings.logLevel = Text.upper ((vars.lookup "LOG_LEVEL").getD "INFO") := by
  obtain ⟨hvalue, -, -⟩ :=
    load_of_mem vars (by decide : ("LOG_LEVEL", Rule.level "INFO") ∈ rules)
  rw [value_level] at hvalue
  exact Value.text.inj (Option.some.inj hvalue)

theorem environment_checked (l : Loading) :
    l.checked.settings.environment = l.settings.environment := by
  unfold Loading.checked Loading.fixLevel
  split <;> rfl

/-- The level of the log that a check leaves is a known one. -/
theorem logLevel_checked (l : Loading) : l.checked.settings.logLevel ∈ knownLevels := by
  unfold Loading.checked Loading.fixLevel
  split
  · rename_i hknown
    exact List.contains_iff_mem.1 hknown
  · exact (by decide : "INFO" ∈ knownLevels)

end Settings

open Settings

/-- An environment of production that names no database. -/
def Settings.IsUnfit (vars : Variables) : Prop :=
  Text.lower (Text.strip ((vars.lookup "ENVIRONMENT").getD "development")) = "production" ∧
    (vars.lookup "DATABASE_URL" = none ∨ vars.lookup "DATABASE_URL" = some "")

theorem Settings.lacksDatabase_iff {vars : Variables} :
    lacksDatabase vars (load vars).checked.settings = true ↔ IsUnfit vars := by
  unfold lacksDatabase IsUnfit
  rw [Bool.and_eq_true, isProduction_iff, environment_checked, environment_load]
  refine and_congr_right fun _ => ?_
  cases vars.lookup "DATABASE_URL" with
  | none => simp
  | some url => simp

namespace Configuration

variable {vars : Variables} {c : Configuration}

/-- What was held before leaves no trace in the settings of a process. -/
theorem load_eq_load (vars : Variables) (c : Configuration) :
    c.load vars = { c with loading := Settings.load vars } := by
  rw [load, reload_eq_load]

/-- A first validation loads the settings, and fails only where no database is named in
production. -/
theorem validate_first (vars : Variables) (h : c.validated = false) :
    (c.validate vars).2.loading = (Settings.load vars).checked ∧
      ((c.validate vars).1 = .error (.badValue "DATABASE_URL must be set in production") ∧
          (c.validate vars).2.validated = false ∧ IsUnfit vars ∨
        (c.validate vars).1 = .ok () ∧ (c.validate vars).2.validated = true ∧
          ¬IsUnfit vars) := by
  unfold validate
  rw [h, if_neg Bool.false_ne_true, load_eq_load, ← lacksDatabase_iff]
  dsimp only
  split
  · rename_i hunfit
    exact ⟨rfl, .inl ⟨rfl, rfl, hunfit⟩⟩
  · rename_i hfit
    exact ⟨rfl, .inr ⟨rfl, rfl, hfit⟩⟩

/-- A validation after one that succeeded does nothing. -/
theorem validate_again (h : c.validated = true) : c.validate vars = (.ok (), c) := if_pos h

/-! ### Histories -/

/-- The configuration after some calls, each in an environment of its own. -/
def afterAll (calls : List (Action × Variables)) (c : Configuration) : Configuration :=
  calls.foldl (fun c call => (c.perform call).2) c

/-- The environment in which some calls load for the last time, if they load at all. -/
def lastLoaded (calls : List (Action × Variables)) : Option Variables :=
  (calls.reverse.find? fun call => call.1 = .load).map Prod.snd

/-- **Once it is validated, a configuration holds what it was loaded with last.** -/
theorem afterAll_of_validated (calls : List (Action × Variables)) (h : c.validated = true) :
    (c.afterAll calls).validated = true ∧
      (c.afterAll calls).loading = ((lastLoaded calls).map Settings.load).getD c.loading := by
  induction calls using List.reverseRecOn with
  | nil => exact ⟨h, rfl⟩
  | append_singleton calls call ih =>
    obtain ⟨action, vars⟩ := call
    obtain ⟨hvalidated, hloading⟩ := ih
    rw [afterAll, List.foldl_append, List.foldl_cons, List.foldl_nil, ← afterAll, lastLoaded,
      List.reverse_append, List.reverse_singleton, List.singleton_append, List.find?_cons]
    cases action with
    | load =>
      rw [perform, load_eq_load]
      exact ⟨hvalidated, rfl⟩
    | validate =>
      rw [perform, validate_again hvalidated]
      exact ⟨hvalidated, hloading⟩

/-- The level of the log, once a validation has put it right, is a known one as long as
nothing is loaded again; then it is what the last loading left. -/
theorem logLevel_afterAll (calls : List (Action × Variables)) (h : c.validated = true)
    (hlevel : c.loading.settings.logLevel ∈ knownLevels) :
    (c.afterAll calls).loading.settings.logLevel ∈ knownLevels ↔
      ∀ loaded, lastLoaded calls = some loaded →
        Text.upper ((loaded.lookup "LOG_LEVEL").getD "INFO") ∈ knownLevels := by
  rw [(afterAll_of_validated calls h).2]
  cases lastLoaded calls with
  | none => exact iff_of_true hlevel nofun
  | some loaded =>
    rw [Option.map_some, Option.getD_some, logLevel_load]
    exact ⟨fun hknown _ hloaded => Option.some.inj hloaded ▸ hknown, fun hknown => hknown _ rfl⟩

end Configuration

/-- **Loading is total, bounded and without a history.**  Whatever was held before, what is
held afterwards is what the environment says, and stays so if it is loaded again.  A
configuration that was not validated fails its validation only in production without a
database.  Where its validation succeeds, so does every later one, whatever is called in
between, and does nothing.  The level of the log that it finds is a known one, unless the
configuration was loaded in between, the last time with an unknown level. -/
theorem loading_accounts (vars : Variables) (c : Configuration) :
    ((∀ held, reload vars held = load vars) ∧ Faithful vars (c.load vars).loading ∧
        (c.load vars).load vars = c.load vars) ∧
      (c.validated = false →
        ((∃ message, (c.validate vars).1 = .error (.badValue message)) ↔ IsUnfit vars) ∧
        (∀ stop, (c.validate vars).1 = .error stop → ∃ message, stop = .badValue message) ∧
        ((c.validate vars).1 = .ok () →
          (c.validate vars).2.loading.settings.logLevel ∈ knownLevels ∧
          ∀ calls later,
            let held := (c.validate vars).2.afterAll calls
            held.validate later = (.ok (), held) ∧
              (held.loading.settings.logLevel ∈ knownLevels ↔
                ∀ loaded, Configuration.lastLoaded calls = some loaded →
                  Text.upper ((loaded.lookup "LOG_LEVEL").getD "INFO") ∈ knownLevels))) := by
  refine ⟨⟨reload_eq_load vars, ?_, ?_⟩, fun hfresh => ?_⟩
  · rw [Configuration.load_eq_load]
    exact faithful_load vars
  · rw [Configuration.load_eq_load, Configuration.load_eq_load]
  obtain ⟨hloading, hfirst⟩ := Configuration.validate_first vars hfresh
  rcases hfirst with ⟨hstop, -, hunfit⟩ | ⟨hok, hvalidated, hfit⟩
  · refine ⟨iff_of_true ⟨_, hstop⟩ hunfit, fun stop hstop' => ?_, fun hok => ?_⟩
    · exact ⟨_, (Except.error.inj (hstop.symm.trans hstop')).symm⟩
    · exact nomatch hstop.symm.trans hok
  · have hlevel : (c.validate vars).2.loading.settings.logLevel ∈ knownLevels :=
      hloading ▸ logLevel_checked _
    have hnone : ∀ stop, (c.validate vars).1 ≠ .error stop := fun stop hstop =>
      nomatch hok.symm.trans hstop
    refine ⟨iff_of_false (fun ⟨_, hstop⟩ => hnone _ hstop) hfit,
      fun stop hstop => absurd hstop (hnone stop), fun _ => ⟨hlevel, fun calls later => ?_⟩⟩
    exact ⟨Configuration.validate_again (Configuration.afterAll_of_validated calls hvalidated).1,
      Configuration.logLevel_afterAll calls hvalidated hlevel⟩

namespace Workshop

/-- Variables of production: a flag in words, a port that is out of bounds, and no
database. -/
def forge : Variables :=
  [("ENVIRONMENT", " Production "), ("LOG_LEVEL", "loud"), ("DEBUG", "off"),
    ("SERVER_PORT", "65536")]

/-- Variables with a level of the log, and nothing else. -/
def ringing (level : String) : Variables := [("LOG_LEVEL", level)]

/-- A configuration that is validated where nothing is set, and then loaded with an unknown
level. -/
def reloaded : Configuration := (Configuration.validate [] {}).2.load (ringing "loud")

end Workshop

open Workshop in
/-- The flag is taken, the port is the default and is reported; production is refused
without a database.  Elsewhere an unknown level is put right, and a known one that is loaded
later stays as it is. -/
theorem loading_accounts_workshop :
    Accounted forge (Configuration.load forge {}).loading "SERVER_PORT"
        (.number 8080 (some 1) (some 65535)) ∧
      (∃ message, (Configuration.validate forge {}).1 = .error (.badValue message)) ∧
      (Configuration.validate (ringing "loud") {}).1 = .ok () ∧
      ((Configuration.validate (ringing "loud") {}).2.afterAll
        [(.load, ringing "debug")]).loading.settings.logLevel ∈ knownLevels := by
  obtain ⟨⟨-, hfaithful, -⟩, hforge⟩ := loading_accounts forge {}
  obtain ⟨hfails, -, -⟩ := hforge rfl
  obtain ⟨-, hringing⟩ := loading_accounts (ringing "loud") {}
  obtain ⟨hunfit, hstops, hlater⟩ := hringing rfl
  have hok : (Configuration.validate (ringing "loud") {}).1 = .ok () := by
    cases hresult : (Configuration.validate (ringing "loud") {}).1 with
    | ok value => rfl
    | error stop =>
      obtain ⟨message, rfl⟩ := hstops stop hresult
      exact absurd (hunfit.1 ⟨message, hresult⟩).1 (by decide)
  refine ⟨hfaithful.accounted _ _ (by decide), hfails.2 ⟨by decide, .inl (by decide)⟩, hok, ?_⟩
  obtain ⟨-, hhistory⟩ := hlater hok
  refine (hhistory [(.load, ringing "debug")] []).2.2 fun loaded hloaded => ?_
  obtain rfl := Option.some.inj hloaded
  decide

open Workshop in
/-- It passes the next validation, and the unknown level stays. -/
theorem level_unknown_after_load :
    (reloaded.validate (ringing "loud")).1 = .ok () ∧
      (reloaded.validate (ringing "loud")).2.loading.settings.logLevel ∉ knownLevels := by
  have hfit : ¬IsUnfit [] := fun h => absurd h.1 (by decide)
  have hvalidated : (Configuration.validate [] {}).2.validated = true := by
    obtain ⟨-, hfirst⟩ := Configuration.validate_first (c := {}) [] rfl
    rcases hfirst with ⟨-, -, hunfit⟩ | ⟨-, hvalidated, -⟩
    · exact absurd hunfit hfit
    · exact hvalidated
  have hreloaded : reloaded.validated = true := hvalidated
  have hlevel : reloaded.loading.settings.logLevel = "LOUD" := by
    rw [reloaded, Configuration.load_eq_load]
    exact logLevel_load (ringing "loud")
  rw [Configuration.validate_again hreloaded, hlevel]
  exact ⟨rfl, by decide⟩

end Guildhall
