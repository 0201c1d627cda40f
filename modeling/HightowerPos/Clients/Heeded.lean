import HightowerPos.Clients.Sentry

/-!
# Answers that the services heed

The services catch `SentryClientError` only, and store its text.  `Attempts.Heeded` says of
the tries of a request that what the client makes of them is a value or such an error, with
a text that can be stored.
-/

namespace HightowerPos

/-- A try after which the client tries again. -/
def Attempt.Repeated : Attempt → Prop
  | .response status _ => 500 ≤ status ∧ status < 600
  | .networkError _ | .timeout _ => True
  | .otherError _ => False

/-- The last try is a response of which `readable` holds, or all three were repeated. -/
def Attempts.Heeded (readable : Nat → Option Json → Prop) (outcome : Attempts) : Prop :=
  ∀ n < Sentry.maxRetries, (∀ m < n, (outcome m).Repeated) → ¬ (outcome n).Repeated →
    ∃ status body, outcome n = .response status body ∧ readable status body

/-- Whatever is shown of the value holds no lone surrogate. -/
def Json.Legible : Json → Prop
  | .str s => s.Encodable
  | _ => True

namespace Sentry

/-- The error code that a body holds, and the message. -/
def errorKind (body : Json) : Json := (body.get "error_kind").orElse (body.get "error")

def errorMessage (body : Json) : Json := (body.get "message").orElse (errorKind body)

/-- A response of `create_pos_so` or `create_pos_refund` that the services heed: the order
is of the expected shape, or the error can be stored. -/
def ReadableOrder {α : Type} (validate : Json → Option α) (status : Nat) (body : Option Json) :
    Prop :=
  if 200 ≤ status ∧ status < 300 then ∃ v, body = some v ∧ (validate v).isSome
  else (errorKind (safeJson ⟨status, body⟩)).Legible ∧
    (errorMessage (safeJson ⟨status, body⟩)).Legible

/-- The same for `validate_cart`, where 409 is an answer as well, and only the message of an
error is stored. -/
def ReadableValidation (rt : Runtime) (status : Nat) (body : Option Json) : Prop :=
  if status = 409 then (rt.validationResult (safeJson ⟨status, body⟩)).isSome = true
  else if 200 ≤ status ∧ status < 300 then ∃ v, body = some v ∧ (rt.validationResult v).isSome
  else (errorMessage (safeJson ⟨status, body⟩)).Legible

/-! ## The loop of a request -/

section Request

variable {outcome : Attempts} {method path : String}

/-- What the client makes of the tries when the first `attempt` ones were repeated. -/
inductive Requested (outcome : Attempts) : Except PyExc SentryResponse → Prop
  | response {n : Nat} (hn : n < maxRetries) (hall : ∀ m < n, (outcome m).Repeated)
      (hlast : ¬ (outcome n).Repeated) {status : Nat} {body : Option Json}
      (h : outcome n = .response status body) : Requested outcome (.ok ⟨status, body⟩)
  | raised {n : Nat} (hn : n < maxRetries) (hall : ∀ m < n, (outcome m).Repeated)
      {repr : String} (h : outcome n = .otherError repr) :
      Requested outcome (.error (.httpx repr))
  | gaveUp (hall : ∀ m < maxRetries, (outcome m).Repeated) {e : SentryClientError}
      (hm : e.message.Encodable) (hcode : e.errorCode = none) :
      Requested outcome (.error (.sentryClient e))

/-- The error of the last try can be stored. -/
def LastExc.Plain : LastExc → Prop
  | .client e => e.message.Encodable ∧ e.errorCode = none
  | .transport _ => True

/-- The first tries, when one more of them was repeated. -/
theorem repeated_succ {n : Nat} (hall : ∀ m < n, (outcome m).Repeated)
    (h : (outcome n).Repeated) : ∀ m < n + 1, (outcome m).Repeated := by
  intro m hm
  rcases Nat.lt_succ_iff_lt_or_eq.mp hm with hm | rfl
  · exact hall m hm
  · exact h

theorem requested_requestLoop (left attempt : Nat) (last : Option LastExc)
    (hleft : attempt + left = maxRetries) (hall : ∀ m < attempt, (outcome m).Repeated)
    (hlast : left = 0 → ∃ e, last = some e) (hplain : ∀ e ∈ last, e.Plain) :
    Requested outcome (requestLoop outcome method path left attempt last) := by
  induction left generalizing attempt last with
  | zero =>
      obtain ⟨e, rfl⟩ := hlast rfl
      obtain rfl : attempt = maxRetries := hleft
      cases e with
      | client e =>
          obtain ⟨hm, hcode⟩ := hplain (.client e) rfl
          exact .gaveUp hall hm hcode
      | transport repr => exact .gaveUp hall (PyStr.encodable_ofString _) rfl
  | succ left ih =>
      have hn : attempt < maxRetries := by omega
      have hnext : attempt + 1 + left = maxRetries := by omega
      have hagain {e : LastExc} (he : e.Plain) (h : (outcome attempt).Repeated) :
          Requested outcome (requestLoop outcome method path left (attempt + 1) (some e)) := by
        refine ih (attempt + 1) (some e) hnext (repeated_succ hall h) (fun _ ↦ ⟨e, rfl⟩) ?_
        rintro _ ⟨⟩
        exact he
      unfold requestLoop
      cases ha : outcome attempt with
      | response status body =>
          dsimp only
          split
          · next hs => exact hagain ⟨PyStr.encodable_ofString _, rfl⟩ (by rw [ha]; exact hs)
          · next hs =>
              refine .response hn hall ?_ ha
              rw [ha]
              exact hs
      | networkError repr => exact hagain trivial (by rw [ha]; trivial)
      | timeout repr => exact hagain trivial (by rw [ha]; trivial)
      | otherError repr => exact .raised hn hall ha

/-- What `_request` makes of the tries. -/
theorem requested_request (outcome : Attempts) (method path : String) :
    Requested outcome (request outcome method path) :=
  requested_requestLoop _ _ _ rfl nofun nofun nofun

end Request

/-! ## Which answers are heeded -/

section Heeded

variable {outcome : Attempts} {rt : Runtime}

/-- What `str` makes of a value has a lone surrogate where the value is such a string. -/
theorem encodable_str {v : Json} : (rt.str v).Encodable ↔ v.Legible := by
  cases v with
  | str s => exact Iff.rfl
  | _ => exact iff_of_true (PyStr.encodable_ofString _) trivial

/-- A default that can be stored changes nothing. -/
theorem legible_orElse_default {v : Json} {s : String} :
    (v.orElse (.str (.ofString s))).Legible ↔ v.Legible := by
  unfold Json.orElse
  split
  · exact Iff.rfl
  · next hv =>
      refine iff_of_true (PyStr.encodable_ofString s) ?_
      cases v with
      | str t =>
          have ht : t = [] := by simpa [Json.truthy] using hv
          subst ht
          exact nofun
      | _ => trivial

theorem legible_orElse {v u u' : Json} (h : u.Legible ↔ u'.Legible) :
    (v.orElse u).Legible ↔ (v.orElse u').Legible := by
  unfold Json.orElse
  split
  · exact Iff.rfl
  · exact h

/-- The texts of the error that a response is turned into. -/
theorem encodable_errorOf {r : SentryResponse} {defaultKind : String} :
    ((errorOf rt r defaultKind).message.Encodable ↔ (errorMessage (safeJson r)).Legible) ∧
      ((∀ code ∈ (errorOf rt r defaultKind).errorCode, code.Encodable) ↔
        (errorKind (safeJson r)).Legible) := by
  have hkind : (((safeJson r).get "error_kind").orElse (((safeJson r).get "error").orElse
      (.str (.ofString defaultKind)))).Legible ↔ (errorKind (safeJson r)).Legible :=
    legible_orElse legible_orElse_default
  refine ⟨encodable_str.trans (legible_orElse hkind), ?_⟩
  have hstr {v : Json} : (rt.str v).Encodable ↔ v.Legible := encodable_str
  rw [← hkind, ← hstr]
  exact ⟨fun h ↦ h _ rfl, fun h code hc ↦ Option.some.inj hc ▸ h⟩

/-- Tries that end with a response are heeded when it is readable. -/
theorem heeded_of_response {readable : Nat → Option Json → Prop} {n status : Nat}
    {body : Option Json} (hn : n < maxRetries) (hall : ∀ m < n, (outcome m).Repeated)
    (hlast : ¬ (outcome n).Repeated) (h : outcome n = .response status body) :
    outcome.Heeded readable ↔ readable status body := by
  constructor
  · intro hheeded
    obtain ⟨status', body', h', hread⟩ := hheeded n hn hall hlast
    rw [h] at h'
    cases h'
    exact hread
  · intro hread m hm hall' hlast'
    obtain hlt | rfl | hgt := Nat.lt_trichotomy m n
    · exact absurd (hall m hlt) hlast'
    · exact ⟨status, body, h, hread⟩
    · exact absurd (hall' n hgt) hlast

/-- The texts of a `SentryClientError` that `_send_to_sentry` stores. -/
def Storable (exc : SentryClientError) : Prop :=
  exc.message.Encodable ∧ ∀ code ∈ exc.errorCode, code.Encodable

/-- What `_send_to_sentry` goes on from. -/
def Taken {α : Type} : Except PyExc α → Prop
  | .ok _ => True
  | .error (.sentryClient exc) => Storable exc
  | .error _ => False

/-- An exception that the client lets through is not heeded. -/
theorem not_heeded_of_raised {readable : Nat → Option Json → Prop} {n : Nat} {repr : String}
    (hn : n < maxRetries) (hall : ∀ m < n, (outcome m).Repeated)
    (h : outcome n = .otherError repr) : ¬ outcome.Heeded readable := by
  intro hheeded
  have hlast : ¬ (outcome n).Repeated := by
    rw [h]
    exact id
  obtain ⟨status, body, h', -⟩ := hheeded n hn hall hlast
  rw [h] at h'
  cases h'

theorem heeded_of_gaveUp {readable : Nat → Option Json → Prop}
    (hall : ∀ m < maxRetries, (outcome m).Repeated) : outcome.Heeded readable :=
  fun n hn _ hlast ↦ absurd (hall n hn) hlast

/-- The error that a response is turned into can be stored when its texts can. -/
theorem storable_errorOf {r : SentryResponse} {defaultKind : String} :
    Storable (errorOf rt r defaultKind) ↔
      (errorKind (safeJson r)).Legible ∧ (errorMessage (safeJson r)).Legible := by
  rw [Storable, encodable_errorOf.1, encodable_errorOf.2]
  exact And.comm

/-- **The orders that are heeded** are those after which the services go on. -/
theorem taken_created_iff {α : Type} {validate : Json → Option α} {method path failed : String} :
    Taken (request outcome method path >>= created rt validate failed) ↔
      outcome.Heeded (ReadableOrder validate) := by
  have h := requested_request outcome method path
  generalize request outcome method path = requested at h ⊢
  cases h with
  | raised hn hall h => exact iff_of_false id (not_heeded_of_raised hn hall h)
  | @gaveUp hall e hm hcode =>
      refine iff_of_true ⟨hm, ?_⟩ (heeded_of_gaveUp hall)
      rw [hcode]
      exact nofun
  | @response n hn hall hlast status body h =>
      rw [heeded_of_response hn hall hlast h]
      change Taken (created rt validate failed ⟨status, body⟩) ↔ _
      unfold created ReadableOrder raiseForStatus
      by_cases hs : 200 ≤ status ∧ status < 300
      · have hne : ¬ (status = 409 ∨ status = 422) := by omega
        have hok : (SentryResponse.mk status body).isSuccess = true := decide_eq_true hs
        simp only [hne, if_false, hok, if_true, if_pos hs]
        cases body with
        | none => exact iff_of_false id nofun
        | some v =>
            cases hv : validate v with
            | none =>
                refine iff_of_false (by simp [parseBody, hv, Taken, bind, Except.bind]) ?_
                rintro ⟨_, ⟨⟩, hsome⟩
                rw [hv] at hsome
                cases hsome
            | some a =>
                refine iff_of_true (by simp [parseBody, hv, Taken, bind, Except.bind]) ?_
                exact ⟨v, rfl, by rw [hv]; rfl⟩
      · have hbad : (SentryResponse.mk status body).isSuccess = false := decide_eq_false hs
        rw [if_neg hs]
        by_cases hne : status = 409 ∨ status = 422
        · rw [if_pos hne]
          exact storable_errorOf
        · simp only [hne, if_false, hbad, Bool.false_eq_true]
          exact storable_errorOf

/-- What `start_checkout` goes on from. -/
def Started : Except PyExc ValidationResult → Prop
  | .ok _ => True
  | .error (.sentryClient exc) => exc.message.Encodable
  | .error _ => False

/-- **The validations that are heeded** are those after which `start_checkout` goes on. -/
theorem started_validateCart_iff :
    Started (validateCart rt outcome) ↔ outcome.Heeded (ReadableValidation rt) := by
  have h := requested_request outcome "POST" "/api/v1/pos/validate-cart"
  unfold validateCart
  generalize request outcome "POST" "/api/v1/pos/validate-cart" = requested at h ⊢
  cases h with
  | raised hn hall h => exact iff_of_false id (not_heeded_of_raised hn hall h)
  | gaveUp hall hm hcode => exact iff_of_true hm (heeded_of_gaveUp hall)
  | @response n hn hall hlast status body h =>
      rw [heeded_of_response hn hall hlast h]
      unfold ReadableValidation
      by_cases hconflict : status = 409
      · subst hconflict
        simp only [bind, Except.bind, if_true]
        cases rt.validationResult (safeJson ⟨409, body⟩) with
        | none => exact iff_of_false id nofun
        | some result => exact iff_of_true trivial rfl
      · simp only [bind, Except.bind, hconflict, if_false, raiseForStatus]
        by_cases hs : 200 ≤ status ∧ status < 300
        · have hok : (SentryResponse.mk status body).isSuccess = true := decide_eq_true hs
          simp only [hok, if_true, if_pos hs]
          cases body with
          | none => exact iff_of_false id nofun
          | some v =>
              cases hv : rt.validationResult v with
              | none =>
                  refine iff_of_false (by simp [parseBody, hv, Started]) ?_
                  rintro ⟨_, ⟨⟩, hsome⟩
                  rw [hv] at hsome
                  cases hsome
              | some result =>
                  refine iff_of_true (by simp [parseBody, hv, Started]) ?_
                  exact ⟨v, rfl, by rw [hv]; rfl⟩
        · have hbad : (SentryResponse.mk status body).isSuccess = false := decide_eq_false hs
          simp only [hbad, Bool.false_eq_true, if_false, if_neg hs]
          exact encodable_errorOf.1

end Heeded

end Sentry

end HightowerPos
