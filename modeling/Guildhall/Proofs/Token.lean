/-
Guildhall/Proofs/Token.lean

Tokens that have been encoded are taken apart again.  The three segments are
written in base64, so the points between them are the only ones; header and
payload are compact JSON, so they are read back.

Main statements: `takeApart_encode`, and `decode_encode`, which says what a
decoder makes of the text of an encoded token.
-/
import Guildhall.Proofs.Ascii
import Guildhall.Proofs.Base64Url
import Guildhall.Proofs.Statement
import Guildhall.Token

namespace Guildhall.Token

open Codec

/-! ### Segments -/

/-- A text is cut at the point behind a part without points. -/
theorem cutFirst_append {part : List Char} (h : '.' ∉ part) (rest : List Char) :
    cutFirst (part ++ '.' :: rest) = some (part, rest) := by
  induction part with
  | nil => rfl
  | cons c part ih =>
    rw [List.mem_cons, not_or] at h
    rw [List.cons_append, cutFirst, if_neg (Ne.symm h.1), ih h.2]
    rfl

theorem cutLast_append {part : List Char} (h : '.' ∉ part) (before : List Char) :
    cutLast (before ++ '.' :: part) = some (before, part) := by
  -- The last point is the first one of the reversed text.
  have hpart : '.' ∉ part.reverse := fun hmem => h (List.mem_reverse.1 hmem)
  unfold cutLast
  rw [List.reverse_append, List.reverse_cons, List.append_assoc, List.singleton_append,
    cutFirst_append hpart]
  show some (before.reverse.reverse, part.reverse.reverse) = _
  rw [List.reverse_reverse, List.reverse_reverse]

/-- A token is cut into its segments. -/
theorem segments?_append {header signature : List Char} (hheader : '.' ∉ header)
    (hsignature : '.' ∉ signature) (payload : List Char) :
    segments? ((header ++ '.' :: payload) ++ '.' :: signature) =
      some { signed := header ++ '.' :: payload, header, payload, signature } := by
  unfold segments?
  rw [cutLast_append hsignature]
  show (cutFirst (header ++ '.' :: payload) >>= _) = _
  rw [cutFirst_append hheader]
  rfl

/-! ### JSON in bytes -/

theorem readJson_jsonBytes {v : Value} (h : Json.Clear Json.nestingLimit v) :
    readJson (jsonBytes v) = .ok v := by
  unfold readJson jsonBytes
  rw [Text.decodeAny?_encode (Json.isAscii_writeChars h)]
  dsimp only
  unfold Json.readDecoded
  rw [Json.readChars_writeChars Json.compact_reads h]
  rfl

/-! ### Headers -/

/-- The fields of a header. -/
def headerFields (algorithm : String) : List (String × Value) :=
  [("alg", .text algorithm), ("typ", .text "JWT")]

theorem readJson_header (algorithm : String) :
    readJson (jsonBytes (header algorithm)) = .ok (.object (headerFields algorithm)) := by
  have hnames : ["alg", "typ"].Nodup := by decide
  refine readJson_jsonBytes (Json.Clear.object hnames ?_)
  intro f hf
  simp only [List.mem_cons, List.not_mem_nil, or_false] at hf
  rcases hf with rfl | rfl
  · exact .text algorithm
  · exact .text "JWT"

theorem isDetached_headerFields (algorithm : String) :
    isDetached (headerFields algorithm) = false := rfl

/-! ### Decoding -/

section Decoding

variable {library : Library} {algorithm : String} {key : Key} {payload : List (String × Value)}
  {token : String}

/-- An encoded token is a signed text with its signature. -/
theorem encode_eq_ok :
    encode library algorithm key payload = .ok token ↔
      ∃ signature, sign library algorithm key (signingInput algorithm payload) = .ok signature ∧
        token = String.ofList
          (signingInput algorithm payload ++ '.' :: Base64Url.encode signature) := by
  unfold encode
  constructor
  · intro h
    obtain ⟨signature, hsign, h⟩ := Except.bind_eq_ok.1 h
    exact ⟨signature, hsign, (Except.ok.inj h).symm⟩
  · rintro ⟨signature, hsign, rfl⟩
    show (sign library algorithm key (signingInput algorithm payload) >>= _) = _
    rw [hsign]
    rfl

/-- The parts of an encoded token. -/
def encodedParts (algorithm : String) (payload : List (String × Value)) (signature : List UInt8) :
    Parts :=
  { segments :=
      { signed := signingInput algorithm payload
        header := Base64Url.encode (jsonBytes (header algorithm))
        payload := Base64Url.encode (jsonBytes (.object payload))
        signature := Base64Url.encode signature }
    header := headerFields algorithm
    payload := jsonBytes (.object payload)
    signature }

/-- **An encoded token is taken apart into the parts it was made of.** -/
theorem takeApart_encode (signature : List UInt8) :
    takeApart
        (String.ofList (signingInput algorithm payload ++ '.' :: Base64Url.encode signature)) =
      .ok (encodedParts algorithm payload signature) := by
  have hpoint : ∀ bytes, '.' ∉ Base64Url.encode bytes := Base64Url.not_mem_encode rfl
  -- No segment holds a point, so the text is cut where it was put together.
  have hsegments := segments?_append (hpoint (jsonBytes (header algorithm))) (hpoint signature)
    (Base64Url.encode (jsonBytes (.object payload)))
  unfold takeApart
  rw [String.toList_ofList]
  unfold signingInput
  rw [hsegments]
  dsimp only
  rw [Base64Url.decode_encode]
  dsimp only
  rw [readJson_header]
  dsimp only
  rw [pure_bind, if_neg (by rw [isDetached_headerFields]; exact Bool.false_ne_true)]
  rw [Base64Url.decode_encode]
  dsimp only
  rw [pure_bind, Base64Url.decode_encode]
  rfl

/-- What a decoder makes of a header, a signed text, a signature and the fields of a
payload. -/
def judge (decoder : Decoder) (header : List (String × Value)) (signed : List Char)
    (signature : List UInt8) (fields : List (String × Value)) : Except Fault Claims :=
  match decoder.key with
  | none => (Claims.ofFields fields).mapError .claims
  | some key => do
    checkSignature decoder key header signed signature
    checkText fields "sub" .subjectNotText
    checkText fields "jti" .tokenIdNotText
    (Claims.ofFields fields).mapError .claims

/-- What a decoder makes of a token that can be taken apart, with an object for a
payload. -/
theorem decode_of_takeApart {parts : Parts} {fields : List (String × Value)}
    (hparts : takeApart token = .ok parts) (hfields : readJson parts.payload = .ok (.object fields))
    (decoder : Decoder) :
    decode decoder token =
      judge decoder parts.header parts.segments.signed parts.signature fields := by
  have hne : token.isEmpty = false := by
    apply eq_false_of_ne_true
    intro hempty
    rw [String.isEmpty_iff.1 hempty] at hparts
    cases hparts
  unfold decode judge
  rw [hne, if_neg Bool.false_ne_true, hparts]
  -- With and without a key, what follows looks at the fields of the payload.
  dsimp only [bind, Except.bind]
  rw [hfields]
  dsimp only [pure, Except.pure]
  cases hclaims : Claims.ofFields fields with
  | ok claims => cases decoder.key <;> rfl
  | error fault => cases decoder.key <;> rfl

/-- **What a decoder makes of an encoded token** is decided by the signature and by
the fields of the payload. -/
theorem decode_encode (h : encode library algorithm key payload = .ok token)
    (hpayload : Json.Clear Json.nestingLimit (.object payload)) (decoder : Decoder) :
    ∃ signature, sign library algorithm key (signingInput algorithm payload) = .ok signature ∧
      decode decoder token =
        judge decoder (headerFields algorithm) (signingInput algorithm payload) signature
          payload := by
  obtain ⟨signature, hsign, rfl⟩ := encode_eq_ok.1 h
  exact ⟨signature, hsign,
    decode_of_takeApart (takeApart_encode signature) (readJson_jsonBytes hpayload) decoder⟩

/-- A decoder finds no other claims than those in the fields. -/
theorem ofFields_of_judge {decoder : Decoder} {header fields : List (String × Value)}
    {signed : List Char} {signature : List UInt8} {c : Claims}
    (h : judge decoder header signed signature fields = .ok c) :
    Claims.ofFields fields = .ok c := by
  unfold judge at h
  split at h
  · exact Except.mapError_eq_ok.1 h
  · obtain ⟨-, -, h⟩ := Except.bind_eq_ok.1 h
    obtain ⟨-, -, h⟩ := Except.bind_eq_ok.1 h
    obtain ⟨-, -, h⟩ := Except.bind_eq_ok.1 h
    exact Except.mapError_eq_ok.1 h

/-- What is read of a token has been read, whatever comes of it. -/
theorem isTooDeep_of_judge {decoder : Decoder} {header fields : List (String × Value)}
    {signed : List Char} {signature : List UInt8} :
    Except.Only (·.isTooDeep = false) (judge decoder header signed signature fields) := by
  have hsignature : ∀ key, Except.Only (·.isTooDeep = false)
      (checkSignature decoder key header signed signature) := by
    intro key
    refine .bind ?_ fun name _ => ?_
    · unfold acceptedAlgorithm
      repeat' split
      all_goals first | exact .ok | exact .error rfl
    · unfold checkSignatureBy
      repeat' split
      all_goals first | exact .ok | exact .error rfl
  have htext : ∀ name, ∀ fault ∈ [Fault.subjectNotText, Fault.tokenIdNotText],
      Except.Only (·.isTooDeep = false) (checkText fields name fault) := by
    intro name fault hfault
    unfold checkText
    split
    · exact .ok
    · exact .ok
    · exact .ok
    · refine .error ?_
      rcases List.mem_pair.1 hfault with rfl | rfl <;> rfl
  have hclaims : Except.Only (fun fault : Fault => fault.isTooDeep = false)
      ((Claims.ofFields fields).mapError .claims) := .mapError fun _ => rfl
  unfold judge
  split
  · exact hclaims
  · refine .bind (hsignature _) fun _ _ => .bind (htext _ _ ?_) fun _ _ =>
      .bind (htext _ _ ?_) fun _ _ => hclaims
    · exact List.mem_cons_self
    · exact List.mem_cons_of_mem _ List.mem_cons_self

/-- The library breaks down at no encoded token. -/
theorem breaksAt_of_encode (h : encode library algorithm key payload = .ok token)
    (hpayload : Json.Clear Json.nestingLimit (.object payload)) {decoder : Decoder} {fault : Fault}
    (hfault : decode decoder token = .error fault) : decoder.breaksAt fault = false := by
  obtain ⟨signature, -, hjudge⟩ := decode_encode h hpayload decoder
  rw [hjudge] at hfault
  unfold Decoder.breaksAt
  rw [isTooDeep_of_judge _ hfault, Bool.false_and]

end Decoding

end Guildhall.Token
