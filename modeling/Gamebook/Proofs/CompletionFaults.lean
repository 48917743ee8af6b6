import Gamebook.Completion

set_option autoImplicit false

namespace Gamebook.Completion

inductive Textless : Json → Prop where
  | fields {fields : Fields} (absent : fields.get? "text" = none) : Textless (.obj fields)
  | text {text : String} (absent : ¬"text".toList <:+: text.toList) : Textless (.str text)
  | items {items : List Json} (absent : Json.str "text" ∉ items) : Textless (.arr items)

inductive Wire.Gives (wire : Wire) : Json → Option String → Prop where
  | text {fields completion : Fields} {more : List Json} {text : String}
      (held : fields.get? wire.field = some (.arr (.obj completion :: more)))
      (told : completion.get? "text" = some (.str text)) : wire.Gives (.obj fields) (some text)
  | absent {fields : Fields} (missing : fields.get? wire.field = none) : wire.Gives (.obj fields) none
  | empty {fields : Fields} {completions : Json} (held : fields.get? wire.field = some completions)
      (falsy : completions.isFalsy = true) : wire.Gives (.obj fields) none
  | textless {fields : Fields} {first : Json} {more : List Json}
      (held : fields.get? wire.field = some (.arr (first :: more))) (textless : Textless first) :
      wire.Gives (.obj fields) none
  | letters {fields : Fields} {letters : String} (held : fields.get? wire.field = some (.str letters)) :
      wire.Gives (.obj fields) none

/-- A reply that a client is made for. -/
inductive Reply.Regular (wire : Wire) : Reply → Prop where
  | unreachable : Regular wire .unreachable
  | timedOut : Regular wire .timedOut
  | refused {status : Int} {body : Option Json} (bad : status < 200 ∨ 299 < status) :
      Regular wire (.answered status body)
  | notJson (status : Int) : Regular wire (.answered status none)
  | read (status : Int) {value : Json} {told : Option String} (gives : wire.Gives value told) :
      Regular wire (.answered status (some value))

/-- A text, or a fault of the backend with its message. -/
def Proper (result : Except Fault Json) : Prop :=
  (∃ text, result = .ok (.str text)) ∨ ∃ fault message, result = .error fault ∧ fault.message? = some message

theorem occursIn_iff (part cs : List Char) : Text.occursIn part cs = true ↔ part <:+: cs := by
  induction cs with
  | nil => simp [Text.occursIn]
  | cons c cs ih => rw [Text.occursIn, Bool.or_eq_true, ih, List.isPrefixOf_iff_prefix, List.infix_cons_iff]

theorem mentionsText_eq_false_iff (item : Json) : mentionsText item = .ok false ↔ Textless item := by
  constructor
  next =>
    intro absent
    cases item with
    | obj fields =>
      refine .fields (List.lookup_eq_none_iff.mpr fun field member => ?_)
      have other := List.any_eq_false.mp (Except.ok.inj absent) field member
      exact bne_iff_ne.mpr fun same => other (beq_iff_eq.mpr same.symm)
    | str text =>
      refine .text fun found => ?_
      rw [← occursIn_iff, Except.ok.inj absent] at found
      cases found
    | arr items =>
      refine .items fun member => ?_
      exact List.any_eq_false.mp (Except.ok.inj absent) _ member rfl
    | null | bool | int | float => cases absent
  next =>
    intro textless
    cases textless with
    | fields absent =>
      refine congrArg Except.ok (List.any_eq_false.mpr fun field member same => ?_)
      have other := List.lookup_eq_none_iff.mp absent field member
      rw [eq_of_beq same] at other
      cases other
    | text absent =>
      rw [← occursIn_iff, Bool.not_eq_true] at absent
      exact congrArg Except.ok absent
    | items absent =>
      refine congrArg Except.ok (List.any_eq_false.mpr fun item member same => ?_)
      split at same
      next text => exact absent (eq_of_beq same ▸ member)
      next => cases same

theorem mentionsText_of_get? {completion : Fields} {value : Json} (told : completion.get? "text" = some value) :
    mentionsText (.obj completion) = .ok true := by
  cases mentions : completion.any (·.1 == "text") with
  | true => exact congrArg Except.ok mentions
  | false =>
    cases (mentionsText_eq_false_iff (.obj completion)).mp (congrArg Except.ok mentions) with
    | fields absent => cases absent.symm.trans told

theorem textless_letter (letters : String) : Textless (.str (String.ofList (letters.toList.take 1))) := by
  refine .text fun found => ?_
  have short : (String.ofList (letters.toList.take 1)).toList.length ≤ 1 := by
    rw [String.toList_ofList]
    exact List.length_take_le _ _
  have long : "text".toList.length = 4 := rfl
  have fits := found.length_le
  omega

theorem not_proper_of_silent {fault : Fault} (silent : fault.message? = none) : ¬Proper (.error fault) := by
  rintro (⟨text, same⟩ | ⟨other, message, same, told⟩)
  next => cases same
  next =>
    cases same
    cases silent.symm.trans told

theorem not_proper_of_structured {value : Json} (structured : ∀ text, value ≠ .str text) : ¬Proper (.ok value) := by
  rintro (⟨text, same⟩ | ⟨fault, message, same, -⟩)
  next => exact structured text (Except.ok.inj same)
  next => cases same

def Wire.take (wire : Wire) (item : Json) : Except Fault Json :=
  mentionsText item >>= fun mentions => if mentions then textOf item else .error (.unexpectedFormat wire)

theorem Wire.take_of_textless (wire : Wire) {item : Json} (textless : Textless item) :
    wire.take item = .error (.unexpectedFormat wire) := by
  rw [take, (mentionsText_eq_false_iff item).mpr textless]
  rfl

theorem Wire.take_of_get? (wire : Wire) {completion : Fields} {value : Json}
    (told : completion.get? "text" = some value) : wire.take (.obj completion) = textOf (.obj completion) := by
  rw [take, mentionsText_of_get? told]
  rfl

theorem silent_of_mentionsText {item : Json} {fault : Fault} (failed : mentionsText item = .error fault) :
    fault.message? = none := by
  cases item with
  | null | bool | int | float =>
    cases failed
    rfl
  | str | arr | obj => cases failed

theorem exists_of_proper_textOf {item : Json} (proper : Proper (textOf item)) :
    ∃ (completion : Fields) (text : String), item = .obj completion ∧ completion.get? "text" = some (.str text) := by
  cases item with
  | null | bool | int | float | str | arr => exact absurd proper (not_proper_of_silent rfl)
  | obj completion =>
    cases told : Fields.get? completion "text" with
    | none =>
      rw [textOf, Json.field?, told] at proper
      exact absurd proper (not_proper_of_silent rfl)
    | some value =>
      rw [textOf, Json.field?, told] at proper
      cases value with
      | str text => exact ⟨completion, text, rfl, told⟩
      | null | bool | int | float => exact absurd proper (not_proper_of_silent rfl)
      | arr | obj => exact absurd proper (not_proper_of_structured fun _ same => by cases same)

theorem Wire.proper_take {wire : Wire} {item : Json} (proper : Proper (wire.take item)) :
    Textless item ∨ ∃ (completion : Fields) (text : String), item = .obj completion ∧
      completion.get? "text" = some (.str text) := by
  cases mentions : mentionsText item with
  | error fault =>
    rw [take, mentions] at proper
    exact absurd proper (not_proper_of_silent (silent_of_mentionsText mentions))
  | ok mentioned =>
    cases mentioned with
    | false => exact .inl ((mentionsText_eq_false_iff item).mp mentions)
    | true =>
      rw [take, mentions] at proper
      exact .inr (exists_of_proper_textOf proper)

namespace Client

variable (client : Client) {fields : Fields} {completions : Json}

theorem extract_held (held : fields.get? client.wire.field = some completions) (filled : completions.isFalsy = false) :
    client.extract (.obj fields) = firstOf completions >>= client.wire.take := by
  rw [extract, held]
  exact if_neg (Bool.eq_false_iff.mp filled)

theorem extract_of_first {item : Json} (held : fields.get? client.wire.field = some completions)
    (filled : completions.isFalsy = false) (first : firstOf completions = .ok item) :
    client.extract (.obj fields) = client.wire.take item := by
  rw [extract_held client held filled, first]
  rfl

theorem extract_of_gives {value : Json} {told : Option String} (gives : client.wire.Gives value told) :
    client.extract value = told.elim (.error (.unexpectedFormat client.wire)) fun text => .ok (.str text) := by
  cases gives with
  | text held told =>
    rw [extract_of_first client held rfl rfl, client.wire.take_of_get? told, textOf, Json.field?, told]
    rfl
  | absent missing =>
    rw [extract, missing]
    rfl
  | empty held falsy =>
    rw [extract, held]
    exact if_pos falsy
  | textless held textless =>
    rw [extract_of_first client held rfl rfl]
    exact client.wire.take_of_textless textless
  | @letters fields letters held =>
    cases filled : (Json.str letters).isFalsy with
    | true =>
      rw [extract, held]
      exact if_pos filled
    | false =>
      rw [extract_of_first client held filled rfl]
      exact client.wire.take_of_textless (textless_letter letters)

theorem gives_of_proper {value : Json} (proper : Proper (client.extract value)) :
    ∃ told, client.wire.Gives value told := by
  cases value with
  | null | bool | int | float | str | arr => exact absurd proper (not_proper_of_silent rfl)
  | obj fields =>
    cases held : Fields.get? fields client.wire.field with
    | none => exact ⟨none, .absent held⟩
    | some completions =>
      cases filled : completions.isFalsy with
      | true => exact ⟨none, .empty held filled⟩
      | false =>
        rw [extract_held client held filled] at proper
        cases completions with
        | null | bool | int | float | obj => exact absurd proper (not_proper_of_silent rfl)
        | str letters => exact ⟨none, .letters held⟩
        | arr items =>
          cases items with
          | nil => cases filled
          | cons first more =>
            rcases Wire.proper_take proper with textless | ⟨completion, text, rfl, told⟩
            next => exact ⟨none, .textless held textless⟩
            next => exact ⟨some text, .text held told⟩

theorem proper_extract_iff (value : Json) : Proper (client.extract value) ↔ ∃ told, client.wire.Gives value told := by
  refine ⟨gives_of_proper client, ?_⟩
  rintro ⟨_ | text, gives⟩ <;> rw [extract_of_gives client gives]
  next => exact .inr ⟨_, _, rfl, rfl⟩
  next => exact .inl ⟨text, rfl⟩

theorem extract_eq_text_iff (value : Json) (text : String) :
    client.extract value = .ok (.str text) ↔ client.wire.Gives value (some text) := by
  refine ⟨fun given => ?_, extract_of_gives client⟩
  obtain ⟨_ | other, gives⟩ := gives_of_proper client (.inl ⟨text, given⟩) <;> rw [extract_of_gives client gives] at given
  next => cases given
  next =>
    cases given
    exact gives

theorem receive_of_bad_status {status : Int} (bad : status < 200 ∨ 299 < status) (body : Option Json) :
    client.receive (.answered status body) = .error (.badStatus status) :=
  if_pos (by simpa using bad)

theorem receive_of_good_status {status : Int} (good : ¬(status < 200 ∨ 299 < status)) (value : Json) :
    client.receive (.answered status (some value)) = client.extract value :=
  if_neg (by simpa using good)

theorem receive_of_no_json {status : Int} (good : ¬(status < 200 ∨ 299 < status)) :
    client.receive (.answered status none) = .error .notJson :=
  if_neg (by simpa using good)

theorem proper_receive_iff (reply : Reply) : Proper (client.receive reply) ↔ reply.Regular client.wire := by
  cases reply with
  | unreachable => exact ⟨fun _ => .unreachable, fun _ => .inr ⟨_, _, rfl, rfl⟩⟩
  | timedOut => exact ⟨fun _ => .timedOut, fun _ => .inr ⟨_, _, rfl, rfl⟩⟩
  | broken how =>
    constructor
    next => exact fun proper => absurd proper (not_proper_of_silent rfl)
    next =>
      intro regular
      cases regular
  | answered status body =>
    by_cases bad : status < 200 ∨ 299 < status
    next =>
      rw [receive_of_bad_status client bad]
      exact ⟨fun _ => .refused bad, fun _ => .inr ⟨_, _, rfl, rfl⟩⟩
    next =>
      cases body with
      | none =>
        rw [receive_of_no_json client bad]
        exact ⟨fun _ => .notJson status, fun _ => .inr ⟨_, _, rfl, rfl⟩⟩
      | some value =>
        rw [receive_of_good_status client bad, proper_extract_iff]
        constructor
        next =>
          rintro ⟨told, gives⟩
          exact .read status gives
        next =>
          intro regular
          cases regular with
          | refused refused => exact absurd refused bad
          | read _ gives => exact ⟨_, gives⟩

theorem receive_eq_text_iff (reply : Reply) (text : String) :
    client.receive reply = .ok (.str text) ↔
      ∃ status value, reply = .answered status (some value) ∧ 200 ≤ status ∧ status ≤ 299 ∧
        client.wire.Gives value (some text) := by
  constructor
  next =>
    intro given
    cases reply with
    | unreachable | timedOut | broken => cases given
    | answered status body =>
      by_cases bad : status < 200 ∨ 299 < status
      next =>
        rw [receive_of_bad_status client bad] at given
        cases given
      next =>
        cases body with
        | none =>
          rw [receive_of_no_json client bad] at given
          cases given
        | some value =>
          rw [receive_of_good_status client bad, extract_eq_text_iff] at given
          exact ⟨status, value, rfl, by omega, by omega, given⟩
  next =>
    rintro ⟨status, value, rfl, least, most, gives⟩
    rw [receive_of_good_status client (by omega), extract_eq_text_iff]
    exact gives

end Client

/-- A call gives a text or fails with a message exactly if the reply it gets is regular, and it gives a text exactly if the
reply holds it as the wire format says. -/
theorem completion_proper_iff_regular (client : Client) (prompt : String) (replies : List Reply) :
    let result := ((client.complete prompt).run replies).1
    (Proper result ↔ ∀ reply, replies.head? = some reply → reply.Regular client.wire) ∧
    ∀ text, result = .ok (.str text) ↔
      ∃ status value, replies.head? = some (.answered status (some value)) ∧ 200 ≤ status ∧ status ≤ 299 ∧
        client.wire.Gives value (some text) := by
  intro result
  cases replies with
  | nil =>
    -- Without a reply the backend is out of reach, and that has a message.
    have lost : result = .error (.unreachable client.base) := rfl
    rw [lost]
    refine ⟨⟨fun _ reply got => ?_, fun _ => .inr ⟨_, _, rfl, rfl⟩⟩, fun text => ⟨fun given => ?_, ?_⟩⟩
    next => cases got
    next => cases given
    next =>
      rintro ⟨status, value, got, -⟩
      cases got
  | cons reply replies =>
    have received : result = client.receive reply := rfl
    rw [received]
    refine ⟨?_, fun text => ?_⟩
    next =>
      rw [client.proper_receive_iff]
      exact ⟨fun regular other same => Option.some.inj same ▸ regular, fun regular => regular reply rfl⟩
    next =>
      rw [client.receive_eq_text_iff]
      simp only [List.head?_cons, Option.some.injEq]

theorem completion_proper_from_backend :
    let client : Client := { base := "http://localhost:5001", format := .str "koboldcpp" }
    let value : Json := .obj [("results", .arr [.obj [("text", .str "north")]])]
    let result := ((client.complete "go north").run [.answered 200 (some value)]).1
    result = .ok (.str "north") ∧ Proper result := by
  intro client value result
  have gives : client.wire.Gives value (some "north") := .text rfl rfl
  have regular : Reply.Regular client.wire (.answered 200 (some value)) := .read 200 gives
  obtain ⟨proper, told⟩ := completion_proper_iff_regular client "go north" [.answered 200 (some value)]
  refine ⟨(told "north").mpr ⟨200, value, rfl, by decide, by decide, gives⟩, proper.mpr fun reply got => ?_⟩
  cases got
  exact regular

theorem completion_not_proper :
    let client : Client := { base := "http://localhost:8080" }
    let result := fun reply => ((client.complete "go north").run [reply]).1
    result (.broken "ReadError") = .error (.broken "ReadError") ∧ ¬Proper (result (.broken "ReadError")) ∧
      result (.answered 200 (some (.arr []))) = .error .notAnObject ∧ ¬Proper (result (.answered 200 (some (.arr [])))) ∧
      ¬Proper (result (.answered 200 (some (.obj [("choices", .arr [.obj [("text", .arr [])]])])))) := by
  intro client result
  refine ⟨rfl, not_proper_of_silent rfl, rfl, not_proper_of_silent rfl, ?_⟩
  have given : result (.answered 200 (some (.obj [("choices", .arr [.obj [("text", .arr [])]])]))) = .ok (.arr []) := rfl
  rw [given]
  exact not_proper_of_structured fun _ same => by cases same

end Gamebook.Completion
