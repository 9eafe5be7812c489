/-
Guildhall/Proofs/Scoping.lean

Programs that open scopes, assign fields and break off, with scopes that are left in the
reverse order in which they were entered.

A run leaves a history.  What holds at any point of it is read off the history alone: the
scopes that were left are passed over together with everything that happened in them, and of
what remains the latest that gives a value counts:

    now name  =  (latest? ids name history).or (start name)

The scope is restored by a stack and assignments overwrite its top, so that the induction
carries two things: a program leaves the stack below it as it was, and the history that it
adds has as many ends as beginnings.

Main statement: `Program.run_scoped`.
-/
import Guildhall.Proofs.Fields

namespace Guildhall.Journal

/-! ### Programs -/

/-- A program that works with the context of the log. -/
inductive Program
  /-- Ends. -/
  | done
  /-- Looks at the fields that hold and goes on as they are. -/
  | look (next : Fields → Program)
  /-- Assigns fields to the innermost scope. -/
  | assign (fields : Fields)
  /-- Breaks off. -/
  | raise
  /-- Runs a program in a scope of its own. -/
  | scope (fields : Fields) (body : Program)
  | seq (first second : Program)
  /-- Runs a program, and another one if it breaks off. -/
  | recover (body handler : Program)

/-- How a program ends. -/
inductive Ending
  | finished
  | raised
  deriving DecidableEq

/-- What happens to the context. -/
inductive Event
  /-- A scope was entered, the generated id of which has this number. -/
  | entered (number : Nat) (fields : Fields)
  | assigned (fields : Fields)
  /-- The innermost scope was left. -/
  | left

/-- The fields that were seen, and what had happened until then, the latest first. -/
structure Sight where
  history : List Event
  fields : Fields

/-- A scope that has ended: the context before it was entered and after it was left. -/
structure Passed where
  before : Context
  after : Context

/-- How far a run has come.  Ids are generated one after the other. -/
structure Course where
  context : Context
  generated : Nat := 0
  /-- What has happened, the latest first. -/
  history : List Event := []
  seen : List Sight := []
  passed : List Passed := []

namespace Course

/-- Looks at the fields that hold. -/
def look (s : Course) : Course :=
  { s with seen := ⟨s.history, s.context.current⟩ :: s.seen }

/-- Assigns fields. -/
def assign (fields : Fields) (s : Course) : Course :=
  { s with context := s.context.assign fields, history := .assigned fields :: s.history }

/-- Enters a scope; an id is generated whether it is used or not. -/
def enter (ids : Nat → String) (fields : Fields) (s : Course) : Course :=
  { s with
    context := s.context.enter (ids s.generated) fields
    generated := s.generated + 1
    history := .entered s.generated fields :: s.history }

/-- Leaves the innermost scope, which was entered in a given context. -/
def leave (before : Context) (s : Course) : Course :=
  { s with
    context := s.context.leave
    history := .left :: s.history
    passed := ⟨before, s.context.leave⟩ :: s.passed }

end Course

/-- Runs a program.  A number of too many digits cannot be assigned, since it has no text;
a scope is left however its program ends. -/
def Program.run (ids : Nat → String) : Program → Course → Ending × Course
  | .done, s => (.finished, s)
  | .look next, s => (next s.context.current).run ids s.look
  | .assign fields, s =>
    if Value.haveWritable fields.present then (.finished, s.assign fields) else (.raised, s)
  | .raise, s => (.raised, s)
  | .scope fields body, s =>
    let r := body.run ids (s.enter ids fields)
    (r.1, r.2.leave s.context)
  | .seq first second, s =>
    match first.run ids s with
    | (.finished, s) => second.run ids s
    | (.raised, s) => (.raised, s)
  | .recover body handler, s =>
    match body.run ids s with
    | (.finished, s) => (.finished, s)
    | (.raised, s) => handler.run ids s

/-! ### What holds -/

/-- The value that is given under a name; null is none. -/
def Fields.given? (fields : Fields) (name : String) : Option Value :=
  fields.present.reverse.lookup name

namespace Event

/-- The number of the id that was generated. -/
def number? : Event → Option Nat
  | .entered number _ => some number
  | _ => none

/-- What a field becomes by an event, if it becomes anything. -/
def value? (ids : Nat → String) (name : String) : Event → Option Value
  | .entered number fields =>
    if name = Context.requestId ∧ fields.lookup Context.requestId = none then
      some (.text (ids number))
    else fields.given? name
  | .assigned fields => (fields.given? name).map Context.asText
  | .left => none

/-- An event that has nothing for a field but null. -/
def Spares (name : String) : Event → Prop
  | .entered _ fields =>
    (∀ v, (name, v) ∈ fields → v = .null) ∧
      (name = Context.requestId → fields.lookup Context.requestId ≠ none)
  | .assigned fields => ∀ v, (name, v) ∈ fields → v = .null
  | .left => False

end Event

/-- What has happened in scopes that are open after as many of the innermost were left. -/
def inScope : Nat → List Event → List Event
  | _, [] => []
  | depth, .left :: history => inScope (depth + 1) history
  | 0, e :: history => e :: inScope 0 history
  | depth + 1, .entered _ _ :: history => inScope depth history
  | depth + 1, .assigned _ :: history => inScope (depth + 1) history

/-- The latest value of a field that is still in scope. -/
def latest? (ids : Nat → String) (name : String) (history : List Event) : Option Value :=
  (inScope 0 history).findSome? (Event.value? ids name)

/-! ### Fields of a scope -/

section

variable {ids : Nat → String} {name : String} {fields : Fields} {history : List Event}

/-- Nothing is given under a name that has only null. -/
theorem Fields.given?_eq_none (h : ∀ v, (name, v) ∈ fields → v = .null) :
    fields.given? name = none := by
  rw [Option.eq_none_iff_forall_ne_some]
  intro v hv
  have hmem : (name, v) ∈ fields.present := List.mem_reverse.1 (mem_of_lookup hv)
  obtain ⟨hin, hpresent⟩ := List.mem_filter.1 hmem
  rw [h v hin] at hpresent
  cases hpresent

theorem Event.value?_eq_none {e : Event} (h : e.Spares name) : e.value? ids name = none := by
  cases e with
  | entered number fields =>
    exact (if_neg fun hid => h.2 hid.1 hid.2).trans (Fields.given?_eq_none h.1)
  | assigned fields => exact congrArg (Option.map _) (Fields.given?_eq_none h)
  | left => exact h.elim

/-- What a new scope gives a field. -/
theorem lookup_scopeFields (number : Nat) :
    (Context.scopeFields (ids number) fields).reverse.lookup name =
      (Event.entered number fields).value? ids name := by
  show _ = if _ then _ else _
  unfold Context.scopeFields
  cases hid : fields.lookup Context.requestId with
  | some v =>
    rw [if_pos (Option.isSome_some ..), if_neg fun h => Option.some_ne_none v h.2]
    rfl
  | none =>
    rw [if_neg (by simp only [Option.isSome_none, Bool.false_eq_true, not_false_eq_true]),
      List.reverse_append, List.reverse_singleton, List.singleton_append, List.lookup_cons]
    by_cases hname : name = Context.requestId
    · rw [if_pos ⟨hname, rfl⟩, hname, beq_self_eq_true]
    · rw [if_neg fun h => hname h.1, beq_eq_false_iff_ne.2 hname]
      rfl

/-- What holds in a scope that was just entered. -/
theorem lookup_enter (number : Nat) (c : Context) :
    (c.enter (ids number) fields).current.lookup name =
      ((Event.entered number fields).value? ids name).or (c.current.lookup name) := by
  show (Fields.add _ _).lookup name = _
  rw [Fields.lookup_add, lookup_scopeFields]

/-- What holds after an assignment. -/
theorem lookup_assign (ids : Nat → String) (c : Context) :
    (c.assign fields).current.lookup name =
      ((Event.assigned fields).value? ids name).or (c.current.lookup name) := by
  show (Fields.add _ _).lookup name = _
  rw [Fields.lookup_add, ← List.map_reverse,
    lookup_mapValues (fun _ v => Context.asText v) fields.present.reverse]
  rfl

/-! ### Histories -/

/-- What happened last counts before what happened earlier, unless a scope was left. -/
theorem latest?_cons {e : Event} (h : inScope 0 (e :: history) = e :: inScope 0 history) :
    latest? ids name (e :: history) = (e.value? ids name).or (latest? ids name history) := by
  rw [latest?, h, List.findSome?_cons]
  cases e.value? ids name with
  | none => rfl
  | some v => rfl

theorem latest?_entered (number : Nat) :
    latest? ids name (.entered number fields :: history) =
      ((Event.entered number fields).value? ids name).or (latest? ids name history) :=
  latest?_cons rfl

theorem latest?_assigned :
    latest? ids name (.assigned fields :: history) =
      ((Event.assigned fields).value? ids name).or (latest? ids name history) :=
  latest?_cons rfl

/-- An event that has nothing for a field leaves what holds. -/
theorem latest?_of_spares {e : Event} (h : e.Spares name) :
    latest? ids name (e :: history) = latest? ids name history := by
  cases e with
  | entered number fields =>
    rw [latest?_entered, Event.value?_eq_none h, Option.none_or]
  | assigned fields => rw [latest?_assigned, Event.value?_eq_none h, Option.none_or]
  | left => exact h.elim

/-- A history with as many ends as beginnings: from within a scope that was left later on it
is passed over. -/
def Balanced (new : List Event) : Prop :=
  ∀ (history : List Event) (depth : Nat),
    inScope (depth + 1) (new ++ history) = inScope (depth + 1) history

theorem Balanced.append {new newer : List Event} (hnew : Balanced new) (hnewer : Balanced newer) :
    Balanced (newer ++ new) := fun history depth => by
  rw [List.append_assoc, hnewer, hnew]

theorem balanced_assigned : Balanced [.assigned fields] := fun _ _ => rfl

/-- A scope that was left is passed over with all that happened in it. -/
theorem inScope_left {new : List Event} (h : Balanced new) (number depth : Nat) :
    inScope depth (.left :: (new ++ .entered number fields :: history)) =
      inScope depth history := by
  rw [inScope, h, inScope]

end

/-! ### What a run keeps -/

/-- What holds is what the history tells, now and whenever it was looked at; scopes were
restored and ids are new. -/
structure Course.Faithful (ids : Nat → String) (start : Fields) (s : Course) : Prop where
  now : ∀ name, s.context.current.lookup name =
    (latest? ids name s.history).or (start.lookup name)
  seen : ∀ sight ∈ s.seen, ∀ name, sight.fields.lookup name =
    (latest? ids name sight.history).or (start.lookup name)
  passed : ∀ scope ∈ s.passed, scope.after = scope.before
  numbers : ∀ n ∈ s.history.filterMap Event.number?, n < s.generated
  ordered : ∀ sight ∈ s.seen, (sight.history.filterMap Event.number?).Pairwise (· > ·)
  latest : (s.history.filterMap Event.number?).Pairwise (· > ·)

/-- A part of a run: the open scopes stay as they are, and what happened is balanced. -/
structure Course.Reaches (s s' : Course) : Prop where
  outer : s'.context.outer = s.context.outer
  history : ∃ new, s'.history = new ++ s.history ∧ Balanced new

namespace Course

variable {ids : Nat → String} {start : Fields} {s s' s'' : Course} {fields : Fields}

theorem Reaches.refl (s : Course) : s.Reaches s := ⟨rfl, [], rfl, fun _ _ => rfl⟩

theorem Reaches.trans (h : s.Reaches s') (h' : s'.Reaches s'') : s.Reaches s'' := by
  obtain ⟨new, hnew, hbalanced⟩ := h.history
  obtain ⟨newer, hnewer, hbalanced'⟩ := h'.history
  refine ⟨h'.outer.trans h.outer, newer ++ new, ?_, hbalanced.append hbalanced'⟩
  rw [hnewer, hnew, List.append_assoc]

theorem reaches_look : s.Reaches s.look := ⟨rfl, [], rfl, fun _ _ => rfl⟩

theorem reaches_assign : s.Reaches (s.assign fields) :=
  ⟨rfl, [.assigned fields], rfl, balanced_assigned⟩

/-- A scope is a balanced part if its program is. -/
theorem reaches_leave (h : (s.enter ids fields).Reaches s') : s.Reaches (s'.leave s.context) := by
  obtain ⟨new, hnew, hbalanced⟩ := h.history
  refine ⟨?_, .left :: (new ++ [.entered s.generated fields]), ?_, ?_⟩
  · show s'.context.leave.outer = _
    rw [Context.leave, h.outer]
    rfl
  · show .left :: s'.history = _
    rw [hnew, List.cons_append, List.append_assoc]
    rfl
  · intro history depth
    rw [List.cons_append, List.append_assoc, List.singleton_append, inScope_left hbalanced]

/-- A scope is left in the context in which it was entered. -/
theorem leave_eq (h : (s.enter ids fields).Reaches s') : s'.context.leave = s.context := by
  rw [Context.leave, h.outer]
  rfl

theorem Faithful.look (h : s.Faithful ids start) : s.look.Faithful ids start where
  now := h.now
  seen := List.forall_mem_cons.2 ⟨h.now, h.seen⟩
  passed := h.passed
  numbers := h.numbers
  ordered := List.forall_mem_cons.2 ⟨h.latest, h.ordered⟩
  latest := h.latest

theorem Faithful.assign (h : s.Faithful ids start) : (s.assign fields).Faithful ids start where
  now name := by
    show (s.context.assign fields).current.lookup name = (latest? ids name (_ :: _)).or _
    rw [lookup_assign ids, latest?_assigned, h.now, Option.or_assoc]
  seen := h.seen
  passed := h.passed
  numbers := h.numbers
  ordered := h.ordered
  latest := h.latest

theorem Faithful.enter (h : s.Faithful ids start) : (s.enter ids fields).Faithful ids start where
  now name := by
    show (s.context.enter _ fields).current.lookup name = (latest? ids name (_ :: _)).or _
    rw [lookup_enter, latest?_entered, h.now, Option.or_assoc]
  seen := h.seen
  passed := h.passed
  numbers := List.forall_mem_cons.2
    ⟨Nat.lt_succ_self _, fun n hn => Nat.lt_succ_of_lt (h.numbers n hn)⟩
  ordered := h.ordered
  latest := List.pairwise_cons.2 ⟨h.numbers, h.latest⟩

/-- Leaving a scope brings back what held before it. -/
theorem Faithful.leave (h : s.Faithful ids start) (h' : s'.Faithful ids start)
    (hreach : (s.enter ids fields).Reaches s') : (s'.leave s.context).Faithful ids start where
  now name := by
    obtain ⟨new, hnew, hbalanced⟩ := hreach.history
    have hscope : inScope 0 (s'.leave s.context).history = inScope 0 s.history := by
      show inScope 0 (.left :: s'.history) = _
      rw [hnew]
      exact inScope_left hbalanced _ _
    show s'.context.leave.current.lookup name = _
    rw [leave_eq hreach, latest?, hscope]
    exact h.now name
  seen := h'.seen
  passed := List.forall_mem_cons.2 ⟨leave_eq hreach, h'.passed⟩
  numbers := h'.numbers
  ordered := h'.ordered
  latest := h'.latest

end Course

/-- **Every program** keeps the open scopes and leaves a faithful history, however it ends. -/
theorem Program.run_faithful (ids : Nat → String) (start : Fields) (p : Program) :
    ∀ s : Course, s.Faithful ids start →
      s.Reaches (p.run ids s).2 ∧ (p.run ids s).2.Faithful ids start := by
  induction p with
  | done => exact fun s h => ⟨.refl s, h⟩
  | raise => exact fun s h => ⟨.refl s, h⟩
  | look next ih =>
    intro s h
    obtain ⟨hreach, hfaithful⟩ := ih s.context.current s.look h.look
    exact ⟨Course.reaches_look.trans hreach, hfaithful⟩
  | assign fields =>
    intro s h
    rw [Program.run]
    split
    · exact ⟨Course.reaches_assign, h.assign⟩
    · exact ⟨.refl s, h⟩
  | scope fields body ih =>
    intro s h
    obtain ⟨hreach, hfaithful⟩ := ih (s.enter ids fields) h.enter
    exact ⟨Course.reaches_leave hreach, h.leave hfaithful hreach⟩
  | seq first second ihfirst ihsecond =>
    intro s h
    obtain ⟨hreach, hfaithful⟩ := ihfirst s h
    rw [Program.run]
    rcases hend : first.run ids s with ⟨_ | _, s'⟩ <;> rw [hend] at hreach hfaithful
    · obtain ⟨hreach', hfaithful'⟩ := ihsecond s' hfaithful
      exact ⟨hreach.trans hreach', hfaithful'⟩
    · exact ⟨hreach, hfaithful⟩
  | recover body handler ihbody ihhandler =>
    intro s h
    obtain ⟨hreach, hfaithful⟩ := ihbody s h
    rw [Program.run]
    rcases hend : body.run ids s with ⟨_ | _, s'⟩ <;> rw [hend] at hreach hfaithful
    · exact ⟨hreach, hfaithful⟩
    · obtain ⟨hreach', hfaithful'⟩ := ihhandler s' hfaithful
      exact ⟨hreach.trans hreach', hfaithful'⟩

/-- The beginning of a run. -/
theorem Course.faithful_begin (ids : Nat → String) (c : Context) :
    Course.Faithful ids c.current { context := c } where
  now _ := rfl
  seen := List.forall_mem_nil _
  passed := List.forall_mem_nil _
  numbers := List.forall_mem_nil _
  ordered := List.forall_mem_nil _
  latest := List.Pairwise.nil

theorem mem_numbers {number : Nat} {fields : Fields} {history : List Event}
    (h : Event.entered number fields ∈ history) : number ∈ history.filterMap Event.number? :=
  List.mem_filterMap.2 ⟨_, h, rfl⟩

/-- **Scopes and assignments.**  For every program, begun in any context:

* every scope that ended, however it ended, left the context as it found it, and so does the
  program with the scopes that were open before;
* whenever the fields are looked at, each has the value of the latest scope or assignment
  that is still in scope and gives one (an assignment gives it as text), and otherwise the
  value that it had in the beginning;
* right after a scope was entered or fields were assigned, what was given as null only is as
  it was before;
* right after a scope that names no request was entered, the request has the id that was
  generated for this scope, which is none of those that were generated earlier. -/
theorem Program.run_scoped (ids : Nat → String) (p : Program) (c : Context) :
    (∀ scope ∈ (p.run ids { context := c }).2.passed, scope.after = scope.before) ∧
      (p.run ids { context := c }).2.context.outer = c.outer ∧
      ∀ sight ∈ (p.run ids { context := c }).2.seen,
        (∀ name, sight.fields.lookup name =
          (latest? ids name sight.history).or (c.current.lookup name)) ∧
        (∀ e history name, sight.history = e :: history → e.Spares name →
          sight.fields.lookup name = (latest? ids name history).or (c.current.lookup name)) ∧
        (∀ number fields history, sight.history = .entered number fields :: history →
          fields.lookup Context.requestId = none →
          sight.fields.lookup Context.requestId = some (.text (ids number)) ∧
            ∀ earlier given, .entered earlier given ∈ history → earlier < number) := by
  obtain ⟨hreach, hfaithful⟩ := p.run_faithful ids c.current _ (Course.faithful_begin ids c)
  refine ⟨hfaithful.passed, hreach.outer, fun sight hsight => ?_⟩
  have hnow := hfaithful.seen sight hsight
  have hordered := hfaithful.ordered sight hsight
  refine ⟨hnow, fun e history name he hspares => ?_, fun number fields history he hid => ?_⟩
  · rw [hnow, he, latest?_of_spares hspares]
  · rw [he] at hordered
    refine ⟨?_, fun earlier given hin => List.rel_of_pairwise_cons hordered (mem_numbers hin)⟩
    have hgenerated : (Event.entered number fields).value? ids Context.requestId =
        some (.text (ids number)) := if_pos ⟨rfl, hid⟩
    rw [hnow, he, latest?_entered, hgenerated, Option.some_or, Option.some_or]

/-- What is assigned in a scope that breaks off is gone after it. -/
example :
    let program : Program :=
      .recover
        (.scope [("operation", .text "Users/Read")]
          (.seq (.assign [("user_id", .text "u-1"), ("operation", .null)])
            (.look fun _ => .raise)))
        (.look fun _ => .done)
    ((program.run (fun _ => "8d1e") { context := {} }).2.seen.map Sight.fields) =
      [[], [("operation", .text "Users/Read"), ("request_id", .text "8d1e"),
        ("user_id", .text "u-1")]] :=
  rfl

end Guildhall.Journal
