/-
Guildhall/Proofs/LogLine.lean

One entry of the log is one line of JSON, and the line says what the entry says.  Whatever
the values are, no control character stands in the line; it is read back as one object, in
which every part of the entry has a name of its own: the five that every line has, the
context fields that are set, and the extra values under one common name.

    line  =  ts, level, logger, msg, src, the context fields that are set, fields

An entry is asked for its message under a name, and an extra value of this name takes its
place.  This is the only name of an extra value with which there is no line.

Main statement: `Entry.line_faithful_iff`.
-/
import Guildhall.Journal.Entry
import Guildhall.Proofs.Calendar
import Guildhall.Proofs.Fields
import Guildhall.Proofs.OneLine

namespace Guildhall.Journal

open Json

/-! ### What an entry says -/

namespace Entry

/-- The last extra value of a name. -/
def given? (e : Entry) (name : String) : Option Value := e.extra.reverse.lookup name

/-- The value of a context field: the extra value of its name, else that of the context,
else a dash. -/
def effective (e : Entry) (c : Context) (name : String) : Value :=
  (e.given? name).getD ((c.current.lookup name).getD (.text unsetText))

/-- An entry without an exception, whose message can be filled in, and which was made in the
years 1 to 9999 and not in their first or last two seconds, as its own clock tells. -/
structure Ordinary (e : Entry) (message : String) : Prop where
  message : e.filled = .ok message
  exception : e.exception = none
  noException : e.given? "exc_info" = none
  clock : e.given? "created" = none
  first : (Instant.firstSecond + 2) * 1000000 ≤ e.created.micros
  last : e.created.micros < (Instant.lastSecond - 1) * 1000000

/-- The names that every line has. -/
def lineNames : List String := ["ts", "level", "logger", "msg", "src"]

/-- The name of the extra values in a line. -/
def fieldsName : String := "fields"

/-- What a line says about an entry in its context.  An extra value under the name of an
attribute is that attribute; the log itself takes no such value. -/
structure Says (e : Entry) (c : Context) (message : String) (line : Fields) : Prop where
  nodup : (line.map Prod.fst).Nodup
  ts : ∃ time, e.time = .ok time ∧ line.lookup "ts" = some (.text time.isoUtc)
  level : line.lookup "level" = some (e.property "levelname" (.text e.level.word))
  logger : line.lookup "logger" = some (e.property "name" (.text e.logger))
  msg : line.lookup "msg" = some (.text message)
  src : line.lookup "src" = some (.text e.source)
  context : ∀ name ∈ contextNames, line.lookup name =
    if isSet (e.effective c name) then some (e.effective c name) else none
  fields : ∃ shown : Fields, (shown.map Prod.fst).Nodup ∧
    (∀ name, shown.lookup name = if isField name then e.given? name else none) ∧
    line.lookup fieldsName = if shown.isEmpty then none else some (.object shown)
  only : ∀ name v, line.lookup name = some v →
    name ∈ lineNames ∨ name ∈ contextNames ∨ name = fieldsName
  own : (∀ name ∈ attributeNames, e.given? name = none) →
    line.lookup "level" = some (.text e.level.word) ∧
    line.lookup "logger" = some (.text e.logger) ∧
    line.lookup "src" = some (.text (e.moduleName ++ ":" ++ e.function ++ ":" ++
      String.ofList (Text.Numeral.intDigits e.line)))

variable {e : Entry} {c : Context} {name message : String} {time : Instant} {room : Nat}

/-! ### Extra values -/

theorem lookup_extras : e.extras.lookup name = e.given? name := by
  rw [extras, Fields.lookup_add, List.lookup_nil, Option.or_none]
  rfl

theorem nodup_extras : (e.extras.map Prod.fst).Nodup := Fields.nodup_add List.nodup_nil

theorem property_of_none (own : Value) (h : e.given? name = none) : e.property name own = own := by
  rw [property, lookup_extras, h, Option.getD_none]

/-- The context adds what the entry does not have itself, and nothing else. -/
theorem given?_inContext :
    (e.inContext c).given? name =
      if name ∈ contextNames then some (e.effective c name) else e.given? name := by
  have hmissing : (name ∈ (contextNames.filter fun name => (e.extras.lookup name).isNone).reverse) ↔
      name ∈ contextNames ∧ e.given? name = none := by
    rw [List.mem_reverse, List.mem_filter, lookup_extras, Option.isNone_iff_eq_none]
  show ((e.extra ++ _).reverse.lookup name) = _
  rw [List.reverse_append, List.lookup_append, ← List.map_reverse, lookup_names]
  unfold effective
  by_cases hname : name ∈ contextNames
  · rw [if_pos hname]
    cases hgiven : e.given? name with
    | none => rw [if_pos (hmissing.2 ⟨hname, hgiven⟩), Option.some_or, Option.getD_none]
    | some v =>
      rw [if_neg fun h => Option.some_ne_none v (hgiven.symm.trans (hmissing.1 h).2),
        Option.none_or, Option.getD_some]
      exact hgiven
  · rw [if_neg hname, if_neg fun h => hname (hmissing.1 h).1, Option.none_or]
    rfl

theorem given?_inContext_of_not_mem (h : name ∉ contextNames) :
    (e.inContext c).given? name = e.given? name := by
  rw [given?_inContext, if_neg h]

theorem property_inContext (h : name ∉ contextNames) (own : Value) :
    (e.inContext c).property name own = e.property name own := by
  rw [property, property, lookup_extras, lookup_extras, given?_inContext_of_not_mem h]

theorem contextField_inContext (h : name ∈ contextNames) :
    (e.inContext c).contextField name = e.effective c name := by
  rw [contextField, property, lookup_extras, given?_inContext, if_pos h, Option.getD_some]

/-! ### The parts of a line -/

theorem filled_inContext : (e.inContext c).filled = e.filled := by
  have hargs : (e.inContext c).extras.lookup "args" = e.extras.lookup "args" := by
    rw [lookup_extras, lookup_extras, given?_inContext_of_not_mem (by decide)]
  unfold filled arguments
  rw [property_inContext (by decide), hargs]
  rfl

theorem source_inContext : (e.inContext c).source = e.source := by
  unfold source
  rw [property_inContext (by decide), property_inContext (by decide),
    property_inContext (by decide)]
  rfl

theorem time_inContext : (e.inContext c).time = e.time := by
  unfold time
  rw [property_inContext (by decide)]
  rfl

/-- Without arguments a message is its own text. -/
theorem filled_of_args (hargs : e.args = none) (hgiven : e.given? "args" = none)
    (hmsg : e.given? "msg" = none) : e.filled = .ok e.message.display := by
  unfold filled arguments
  rw [lookup_extras, hgiven, hargs, property_of_none _ hmsg]

/-- An entry tells its message unless something is given under the name under which it is
asked for it. -/
theorem text_inContext :
    (e.inContext c).text =
      if (e.given? messageName).isSome then .error .mismatch else e.filled := by
  unfold text
  rw [lookup_extras, given?_inContext_of_not_mem (by decide), filled_inContext]

/-- A floating-point number of seconds is read by its microseconds. -/
theorem readTime_float {x : Number.Binary64} {n : Int} (h : Instant.floatMicros? x = some n) :
    readTime (.float x) = instantOf n := by
  cases x with
  | nan => cases h
  | infinite negative => cases h
  | finite negative m exponent =>
    unfold readTime
    dsimp only
    rw [h]
    rfl

namespace Ordinary

theorem shownException_inContext (h : e.Ordinary message) :
    (e.inContext c).shownException = .ok none := by
  have hgiven : (e.inContext c).extras.lookup "exc_info" = none := by
    rw [lookup_extras, given?_inContext_of_not_mem (by decide), h.noException]
  unfold shownException
  rw [hgiven]
  show Except.ok (e.exception.map _) = _
  rw [h.exception]
  rfl

/-- The clock of an ordinary entry can be told. -/
theorem exists_time (h : e.Ordinary message) : ∃ time, e.time = .ok time := by
  have hfirst := h.first
  have hlast := h.last
  unfold Instant.firstSecond at hfirst
  unfold Instant.lastSecond at hlast
  have hcalendar : e.created.inCalendar = true := by
    unfold Instant.inCalendar Instant.firstSecond Instant.lastSecond
    rw [Bool.and_eq_true, decide_eq_true_eq, decide_eq_true_eq]
    omega
  obtain ⟨n, hn, hsize, hneg, hpos⟩ := Instant.floatMicros?_ofRatio hcalendar
  have hcount : Instant.isCount (n / 1000000) = true := by
    unfold Instant.isCount
    rw [Bool.and_eq_true, decide_eq_true_eq, decide_eq_true_eq]
    omega
  have hyear : Instant.hasYear (n / 1000000) = true := by
    unfold Instant.hasYear
    rw [Bool.and_eq_true, decide_eq_true_eq, decide_eq_true_eq]
    omega
  have htold : Instant.ofMicros? n = some ⟨n⟩ := by
    refine Instant.ofMicros?_eq_some.2 ⟨rfl, ?_⟩
    unfold Instant.inCalendar Instant.firstSecond Instant.lastSecond
    rw [Bool.and_eq_true, decide_eq_true_eq, decide_eq_true_eq]
    dsimp only
    omega
  refine ⟨⟨n⟩, ?_⟩
  unfold time
  rw [property_of_none _ h.clock, readTime_float hn, instantOf, hcount, hyear, htold]
  rfl

end Ordinary

/-! ### The line as fields -/

/-- The extra values that are shown. -/
def shown (e : Entry) (c : Context) : Fields := (e.inContext c).shownExtras

/-- The parts that every line has. -/
def ownParts (e : Entry) (message : String) (time : Instant) : Fields :=
  [("ts", .text time.isoUtc), ("level", e.property "levelname" (.text e.level.word)),
    ("logger", e.property "name" (.text e.logger)), ("msg", .text message),
    ("src", .text e.source)]

/-- The context fields, set or not. -/
def contextParts (e : Entry) (c : Context) : Fields :=
  contextNames.map fun name => (name, e.effective c name)

/-- The parts of a line, in their order. -/
def told (e : Entry) (c : Context) (message : String) (time : Instant) : Fields :=
  e.ownParts message time ++ (e.contextParts c).filter (fun f => isSet f.2) ++
    (if (e.shown c).isEmpty then [] else [(fieldsName, .object (e.shown c))])

theorem names_ownParts : (e.ownParts message time).map Prod.fst = lineNames := rfl

theorem names_contextParts : (e.contextParts c).map Prod.fst = contextNames := by
  rw [contextParts, List.map_map]
  exact List.map_id _

theorem shownContext_inContext :
    (e.inContext c).shownContext = (e.contextParts c).filter fun f => isSet f.2 := by
  refine congrArg (List.filter _) (List.map_congr_left fun name hname => ?_)
  rw [contextField_inContext hname]

theorem payload_inContext (h : e.Ordinary message) (htime : e.time = .ok time)
    (hgiven : e.given? messageName = none) :
    (e.inContext c).payload = .ok (e.told c message time) := by
  have htext : (e.inContext c).text = .ok message := by
    rw [text_inContext, hgiven, Option.isSome_none, if_neg Bool.false_ne_true, h.message]
  unfold payload
  rw [time_inContext, htime, htext, h.shownException_inContext, shownContext_inContext,
    source_inContext, property_inContext (by decide), property_inContext (by decide)]
  exact congrArg Except.ok (List.append_nil _)

theorem lookup_shown : (e.shown c).lookup name = if isField name then e.given? name else none := by
  refine (lookup_filterNames isField _ name).trans ?_
  by_cases hfield : isField name = true
  · have hname : name ∉ contextNames := by
      intro hin
      unfold isField at hfield
      rw [List.contains_iff_mem.2 hin] at hfield
      simp at hfield
    rw [if_pos hfield, if_pos hfield, lookup_extras, given?_inContext_of_not_mem hname]
  · rw [if_neg hfield, if_neg hfield]

theorem nodup_shown : ((e.shown c).map Prod.fst).Nodup :=
  nodup_extras.sublist (List.filter_sublist.map _)

/-- Each part has one of the names that a line can have, in their order. -/
theorem names_told :
    ((e.told c message time).map Prod.fst).Sublist (lineNames ++ contextNames ++ [fieldsName]) := by
  unfold told
  rw [List.map_append, List.map_append]
  refine .append (.append (List.Sublist.refl _) ?_) ?_
  · rw [← names_contextParts (e := e) (c := c)]
    exact List.filter_sublist.map _
  · split
    · exact List.nil_sublist _
    · exact List.Sublist.refl _

theorem nodup_told : ((e.told c message time).map Prod.fst).Nodup :=
  List.Nodup.sublist names_told (by decide)

/-! ### What can be read back -/

section

variable (hextra : ∀ f ∈ e.extra, Clear room f.2)

include hextra

theorem clear_given {v : Value} (h : e.given? name = some v) : Clear room v :=
  hextra (name, v) (List.mem_reverse.1 (mem_of_lookup h))

theorem clear_property (own : String) : Clear room (e.property name (.text own)) := by
  rw [property, lookup_extras]
  cases h : e.given? name with
  | none => exact .text own
  | some v => exact clear_given hextra h

theorem clear_effective (hcontext : ∀ f ∈ c.current, Clear room f.2) :
    Clear room (e.effective c name) := by
  unfold effective
  cases h : e.given? name with
  | some v => exact clear_given hextra h
  | none =>
    cases h' : c.current.lookup name with
    | some v => exact hcontext (name, v) (mem_of_lookup h')
    | none => exact .text unsetText

theorem clear_shown : Clear (room + 1) (.object (e.shown c)) := by
  refine .object nodup_shown fun f hf => ?_
  have hlookup := lookup_of_mem nodup_shown hf
  rw [lookup_shown] at hlookup
  split at hlookup
  · exact clear_given hextra hlookup
  · cases hlookup

theorem clear_told (hcontext : ∀ f ∈ c.current, Clear room f.2) :
    Clear (room + 2) (.object (e.told c message time)) := by
  refine .object nodup_told fun f hf => ?_
  rcases List.mem_append.1 hf with hf | hf
  · rcases List.mem_append.1 hf with hf | hf
    · simp only [ownParts, List.mem_cons, List.not_mem_nil, or_false] at hf
      rcases hf with rfl | rfl | rfl | rfl | rfl
      · exact .text _
      · exact (clear_property hextra _).mono (Nat.le_succ _)
      · exact (clear_property hextra _).mono (Nat.le_succ _)
      · exact .text _
      · exact .text _
    · obtain ⟨name, -, rfl⟩ := List.mem_map.1 (List.mem_of_mem_filter hf)
      exact (clear_effective hextra hcontext).mono (Nat.le_succ _)
  · split at hf
    · cases hf
    · rw [List.mem_singleton] at hf
      rw [hf]
      exact clear_shown hextra

end

/-! ### Looking at a line -/

theorem lookup_contextParts (name : String) :
    ((e.contextParts c).filter fun f => isSet f.2).lookup name =
      if name ∈ contextNames ∧ isSet (e.effective c name) then some (e.effective c name)
      else none := by
  rw [lookup_filterValues isSet (names_contextParts ▸ by decide), contextParts, lookup_names]
  by_cases hname : name ∈ contextNames
  · rw [if_pos hname, Option.filter_some]
    exact if_congr (and_iff_right hname).symm rfl rfl
  · rw [if_neg hname, if_neg fun h => hname h.1, Option.filter_none]

theorem lookup_told_context (h : name ∈ contextNames) :
    (e.told c message time).lookup name =
      if isSet (e.effective c name) then some (e.effective c name) else none := by
  have hline : name ∉ lineNames := (by decide : ∀ name ∈ contextNames, name ∉ lineNames) name h
  have hfields : name ≠ fieldsName := by
    rintro rfl
    exact absurd h (by decide)
  have hlast : (if (e.shown c).isEmpty then []
      else [(fieldsName, Value.object (e.shown c))]).lookup name = none := by
    split
    · rfl
    · rw [List.lookup_cons, beq_eq_false_iff_ne.2 hfields]
      rfl
  rw [told, List.lookup_append, List.lookup_append, hlast, Option.or_none, lookup_contextParts,
    lookup_eq_none_of_not_mem (names_ownParts ▸ hline), Option.none_or]
  exact if_congr (and_iff_right h) rfl rfl

theorem lookup_told_fields :
    (e.told c message time).lookup fieldsName =
      if (e.shown c).isEmpty then none else some (.object (e.shown c)) := by
  have hline : fieldsName ∉ lineNames := by decide
  rw [told, List.lookup_append, List.lookup_append, lookup_contextParts,
    if_neg fun h => absurd h.1 (by decide), lookup_eq_none_of_not_mem (names_ownParts ▸ hline)]
  split
  · rfl
  · rfl

theorem says_told (htime : e.time = .ok time) : e.Says c message (e.told c message time) where
  nodup := nodup_told
  ts := ⟨time, htime, rfl⟩
  level := rfl
  logger := rfl
  msg := rfl
  src := rfl
  context _ hname := lookup_told_context hname
  fields := ⟨e.shown c, nodup_shown, fun _ => lookup_shown, lookup_told_fields⟩
  only name v h := by
    have hname := names_told.subset (List.mem_map_of_mem (f := Prod.fst) (mem_of_lookup h))
    rw [List.mem_append, List.mem_append, List.mem_singleton, or_assoc] at hname
    exact hname
  own h := by
    have hlevel := property_of_none (.text e.level.word) (h "levelname" (by decide))
    have hlogger := property_of_none (.text e.logger) (h "name" (by decide))
    have hsource : e.source = e.moduleName ++ ":" ++ e.function ++ ":" ++
        String.ofList (Text.Numeral.intDigits e.line) := by
      unfold source
      rw [property_of_none _ (h "module" (by decide)),
        property_of_none _ (h "funcName" (by decide)),
        property_of_none _ (h "lineno" (by decide))]
      rfl
    exact ⟨congrArg some hlevel, congrArg some hlogger, congrArg (some ∘ Value.text) hsource⟩

/-! ### The line -/

/-- There is no line for an ordinary entry whose message is hidden. -/
theorem Ordinary.jsonLine_of_hidden (h : e.Ordinary message)
    (hgiven : (e.given? messageName).isSome) : (e.inContext c).jsonLine = .error .mismatch := by
  obtain ⟨time, htime⟩ := h.exists_time
  unfold jsonLine payload
  rw [time_inContext, htime, text_inContext, if_pos hgiven]
  rfl

/-- **One entry is one faithful line.**  An ordinary entry whose extra values and whose
context hold words, texts, whole numbers of not too many digits, lists and objects is shown
in one line without control characters, which is read back as one object that says what the
entry says, just when nothing is given under the name under which the entry is asked for its
message.  The values may be nested to any depth, as far as the line goes; that writing them
ends where the stack does is left out, and reading them takes the room that their depth
asks for. -/
theorem line_faithful_iff (e : Entry) (c : Context) (message : String) (room : Nat)
    (he : e.Ordinary message) (hextra : ∀ f ∈ e.extra, Clear room f.2)
    (hcontext : ∀ f ∈ c.current, Clear room f.2) :
    (∃ line fields, (e.inContext c).jsonLine = .ok line ∧
      (∀ ch ∈ line.toList, 0x20 ≤ ch.toNat) ∧
      (∀ more, room + 2 ≤ more → readWithin more line.toList = .ok (.object fields)) ∧
      e.Says c message fields) ↔
    e.given? messageName = none := by
  constructor
  · rintro ⟨line, fields, hline, -⟩
    rw [← Option.not_isSome_iff_eq_none]
    intro hgiven
    rw [he.jsonLine_of_hidden hgiven] at hline
    cases hline
  · intro hgiven
    obtain ⟨time, htime⟩ := he.exists_time
    have hclear : Clear (room + 2) (.object (e.told c message time)) :=
      clear_told hextra hcontext
    refine ⟨Json.write spaced (.object (e.told c message time)), e.told c message time, ?_, ?_,
      ?_, says_told htime⟩
    · rw [jsonLine, payload_inContext he htime hgiven]
      rfl
    · rw [Json.write, String.toList_ofList]
      exact spaced_stays.writeChars hclear
    · intro more hmore
      rw [Json.write, String.toList_ofList]
      exact readWithin_writeChars spaced_reads (hclear.mono hmore)

end Entry

namespace Bookkeeping

theorem clear_small {room : Nat} {n : Int} (h : n.natAbs < 10 ^ 2) : Clear room (.int n) :=
  .int (Nat.le_trans (Text.Numeral.length_natDigits_le 1 h) (by decide))

/-- An entry about a sale, whose message has two lines. -/
def sale : Entry :=
  { message := .text "sold:\na \"sword\"", logger := "market", created := ⟨1893456000250000⟩
    extra := [("item_id", .text "i-9"), ("prices", .list [.int 12, .null]), ("user_id", .null)] }

/-- The request that the sale is part of. -/
def request : Context :=
  { current := [("request_id", .text "8d1e"), ("user_id", .text "u-1")] }

theorem ordinary_sale : sale.Ordinary "sold:\na \"sword\"" where
  message := Entry.filled_of_args rfl rfl rfl
  exception := rfl
  noException := rfl
  clock := rfl
  first := by decide
  last := by decide

theorem line_faithful_iff_sale :
    ∃ line fields, (sale.inContext request).jsonLine = .ok line ∧
      (∀ ch ∈ line.toList, 0x20 ≤ ch.toNat) ∧
      (∀ more, 3 ≤ more → readWithin more line.toList = .ok (.object fields)) ∧
      sale.Says request "sold:\na \"sword\"" fields := by
  refine (Entry.line_faithful_iff sale request _ 1 ordinary_sale ?_ ?_).2 rfl
  · refine List.forall_mem_cons.2 ⟨.text _, List.forall_mem_cons.2 ⟨.list ?_, ?_⟩⟩
    · exact List.forall_mem_cons.2 ⟨clear_small (by decide), List.forall_mem_singleton.2 .null⟩
    · exact List.forall_mem_singleton.2 .null
  · exact List.forall_mem_cons.2 ⟨.text _, List.forall_mem_singleton.2 (.text _)⟩

/-- An entry with an extra value under the name under which it is asked for its message. -/
def hidden : Entry :=
  { message := .text "m", logger := "oracle", created := ⟨1893456000000000⟩
    extra := [(Entry.messageName, .int 1)] }

/-- It is an ordinary entry, and there is no line for it. -/
theorem no_line_of_hidden :
    hidden.Ordinary "m" ∧ (∀ f ∈ hidden.extra, Clear 0 f.2) ∧
      (hidden.inContext {}).jsonLine = .error .mismatch := by
  have hordinary : hidden.Ordinary "m" :=
    ⟨Entry.filled_of_args rfl rfl rfl, rfl, rfl, rfl, by decide, by decide⟩
  refine ⟨hordinary, ?_, hordinary.jsonLine_of_hidden rfl⟩
  exact List.forall_mem_singleton.2 (clear_small (by decide))

end Bookkeeping

end Guildhall.Journal
