import HightowerPos.Errors

/-!
# The Windcave client

A reply of the payment terminal as `_parse_status_response` returns it.  The answer to a call is
such a reply or any exception; `WindcaveClientError` is the one that the services handle.  The
client is the one that talks to a terminal, `windcave_mock = False`.
-/

namespace HightowerPos

/-- `WindcaveButton`. -/
structure WindcaveButton where
  name : String
  enabled : Bool
  label : String := ""
deriving Repr, DecidableEq

/-- `WindcaveDisplay`. -/
structure WindcaveDisplay where
  line1 : String := ""
  line2 : String := ""
deriving Repr, DecidableEq

/-- `WindcaveResult`. -/
structure WindcaveResult where
  approved : Bool := false
  authCode : Option String := none
  cardBrand : Option String := none
  cardMasked : Option String := none
  cardLast4 : Option String := none
  dpsTxnRef : Option String := none
  txnDatetime : Option String := none
  responseCode : Option String := none
  responseText : Option String := none
  amountCents : Option Nat := none
deriving Repr, DecidableEq

/-- `WindcaveStatusResponse`. -/
structure WindcaveStatusResponse where
  txnRef : String := ""
  txnType : String := "Status"
  complete : Bool := false
  statusId : Option String := none
  txnStatusId : Option String := none
  responseCode : Option String := none
  timeoutSeconds : Option Nat := none
  display : WindcaveDisplay := {}
  buttons : List WindcaveButton := []
  receiptText : String := ""
  receiptWidth : Option Nat := none
  result : Option WindcaveResult := none
  rawXml : String := ""
deriving Repr, DecidableEq

namespace WindcaveStatusResponse

/-- `SIGNATURE_TXN_STATUS_ID`. -/
def signatureTxnStatusId : String := "7"

/-- `complete and result is not None and result.approved`. -/
def approved (r : WindcaveStatusResponse) : Bool :=
  r.complete && r.result.any WindcaveResult.approved

/-- `complete and result is not None and not result.approved`. -/
def declined (r : WindcaveStatusResponse) : Bool :=
  r.complete && r.result.any fun x ↦ !x.approved

def signatureRequired (r : WindcaveStatusResponse) : Bool :=
  r.txnStatusId = some signatureTxnStatusId

/-- No reply is approved and declined. -/
theorem not_declined_of_approved {r : WindcaveStatusResponse} (h : r.approved) :
    ¬ r.declined := by
  cases hr : r.result <;> simp_all [approved, declined]

end WindcaveStatusResponse

namespace Windcave

/-- `_format_amount` refuses a negative amount; the text it makes of another is left
out. -/
def formatAmount (amountCents : Cents) : Except PyExc Unit :=
  if amountCents < 0 then .error (.value "amount must be non-negative") else .ok ()

end Windcave

end HightowerPos
