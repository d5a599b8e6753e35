import Forex.Send.PlaceOrder

/-!
When a plain error of the bridge client proves that nothing is at the broker.
Of the answers of one request only the last can leave an order: all before it
are errors of the filling mode.
-/

namespace Forex

/-- A request that fails with a plain error has left nothing at the broker. -/
def ClassifiedSoundly (configured : Bool) (exchange : Exchange) (m : Terminal)
    (call : OrderCall) : Prop :=
  (clientPlaceOrder configured exchange m call).1.isPlainError = true →
    ∀ a ∈ (clientPlaceOrder configured exchange m call).2, a.mayExist = false

/-- The first answer that is not an error of the filling mode. -/
def decisiveAnswer (m : Terminal) (call : OrderCall) : Option SendAnswer :=
  match preflight m with
  | .error _ => none
  | .ok (tick, info) =>
      (fillModes.map fun mode => m.orderSend (orderRequest call tick info mode)).find?
        fun a => !a.isFillError

/-- An answer behind which an order may stand and which `_place_order` reports
as a plain error. -/
def misreported (m : Terminal) : SendAnswer → Bool
  | .answered r => decide (r.retcode = retcodeDonePartial ∨ r.retcode = retcodePlaced)
  | .none =>
      match m.lastError with
      | .ok _ => false
      | .error _ => true
  | .raised _ => true

def faithfulExchange (exchange : Exchange) (m : Terminal) (call : OrderCall) : Bool :=
  match exchange with
  | .answered => !(decisiveAnswer m call).any (misreported m)
  | .notJson status _ _ served =>
      decide (status = 200 ∨ status = 201) || !served ||
        !(decisiveAnswer m call).any SendAnswer.mayExist
  | .neverSent _ => true
  | .broken _ _ => true

theorem isFillError_mayExist {a : SendAnswer} (h : a.isFillError = true) :
    a.mayExist = false := by
  cases a with
  | answered r =>
      simp only [SendAnswer.isFillError, fillErrors, List.mem_cons, List.not_mem_nil, or_false,
        decide_eq_true_eq] at h
      simp only [SendAnswer.mayExist, retcodeDone, retcodeDonePartial, retcodePlaced,
        List.mem_cons, List.not_mem_nil, or_false, decide_eq_false_iff_not]
      omega
  | none => exact absurd h (by simp [SendAnswer.isFillError])
  | raised e => exact absurd h (by simp [SendAnswer.isFillError])

section Loop
variable (send : Filling → SendAnswer)

theorem sendAll_mayExist (modes : List Filling) :
    (∀ a ∈ sendAll send modes, a.mayExist = false) ↔
      ((modes.map send).find? fun a => !a.isFillError).any SendAnswer.mayExist = false := by
  induction modes with
  | nil => simp [sendAll]
  | cons mode modes ih =>
      rw [sendAll]
      cases retry : (send mode).isFillError with
      | true => simp [retry, isFillError_mayExist retry, ih]
      | false => simp [retry]

theorem sendAll_getLast {modes : List Filling} {a : SendAnswer}
    (h : ((modes.map send).find? fun a => !a.isFillError) = some a) :
    (sendAll send modes).getLast? = some a := by
  induction modes with
  | nil => exact absurd h (by simp)
  | cons mode modes ih =>
      rw [sendAll]
      cases retry : (send mode).isFillError with
      | true =>
          rw [List.map_cons, List.find?_cons_of_neg (by simp [retry])] at h
          rw [if_pos rfl, List.getLast?_cons, ih h]
          rfl
      | false =>
          rw [List.map_cons, List.find?_cons_of_pos (by simp [retry])] at h
          simpa using h

theorem sendAll_length_mayExist (modes : List Filling) :
    ((sendAll send modes).filter SendAnswer.mayExist).length ≤ 1 := by
  induction modes with
  | nil => simp [sendAll]
  | cons mode modes ih =>
      rw [sendAll]
      cases retry : (send mode).isFillError with
      | true => simpa [isFillError_mayExist retry] using ih
      | false =>
          rw [if_neg (by simp)]
          exact (List.filter_sublist.length_le).trans (by simp)

end Loop

theorem rejection_isPlainError (r : SendResult) : (rejection r).isPlainError = true := by
  rw [rejection]
  split_ifs <;> rfl

theorem replyTo_misreported (m : Terminal) (call : OrderCall) (stops : Option ℚ × Option ℚ)
    (a : SendAnswer) :
    ((replyTo m call stops a).isPlainError = true → a.mayExist = false) ↔
      misreported m a = false := by
  cases a with
  | answered r =>
      by_cases done : r.retcode = retcodeDone
      · have other : misreported m (.answered r) = false := by
          simp [misreported, done, retcodeDone, retcodeDonePartial, retcodePlaced]
        rw [other]
        simp [replyTo, done, OrderReply.isPlainError, OrderReply.placed]
      · rw [replyTo, if_neg done]
        simp [rejection_isPlainError, misreported, SendAnswer.mayExist, done]
  | none =>
      rw [replyTo, misreported]
      cases m.lastError <;>
        simp [OrderReply.isPlainError, OrderReply.lost, OrderReply.plain, SendAnswer.mayExist]
  | raised e =>
      simp [replyTo, misreported, OrderReply.isPlainError, OrderReply.plain, SendAnswer.mayExist]

theorem placeOrder_mayExist (m : Terminal) (call : OrderCall) :
    (∀ a ∈ (placeOrder m call).2, a.mayExist = false) ↔
      (decisiveAnswer m call).any SendAnswer.mayExist = false := by
  rw [placeOrder, decisiveAnswer]
  cases preflight m with
  | error reply => simp
  | ok found =>
      obtain ⟨tick, info⟩ := found
      exact sendAll_mayExist (fun mode => m.orderSend (orderRequest call tick info mode)) fillModes

theorem placeOrder_misreported (m : Terminal) (call : OrderCall) :
    ((placeOrder m call).1.isPlainError = true →
        ∀ a ∈ (placeOrder m call).2, a.mayExist = false) ↔
      (decisiveAnswer m call).any (misreported m) = false := by
  rw [placeOrder_mayExist]
  cases decisive : decisiveAnswer m call with
  | none => simp
  | some a =>
      have reply : ∃ stops, (placeOrder m call).1 = replyTo m call stops a := by
        rw [decisiveAnswer] at decisive
        rw [placeOrder]
        cases checked : preflight m with
        | error reply =>
            rw [checked] at decisive
            exact absurd decisive (by simp)
        | ok found =>
            rw [checked] at decisive
            refine ⟨padStops call found.1 found.2, ?_⟩
            simp only [List.getLastD_eq_getLast?, sendAll_getLast _ decisive, Option.getD_some]
      obtain ⟨stops, eq⟩ := reply
      rw [eq]
      exact replyTo_misreported m call stops a

theorem placeOrder_length_mayExist (m : Terminal) (call : OrderCall) :
    ((placeOrder m call).2.filter SendAnswer.mayExist).length ≤ 1 := by
  rw [placeOrder]
  cases preflight m with
  | error reply => simp
  | ok found =>
      obtain ⟨tick, info⟩ := found
      exact sendAll_length_mayExist (fun mode => m.orderSend (orderRequest call tick info mode))
        fillModes

theorem clientPlaceOrder_length_mayExist (configured : Bool) (exchange : Exchange) (m : Terminal)
    (call : OrderCall) :
    ((clientPlaceOrder configured exchange m call).2.filter SendAnswer.mayExist).length ≤ 1 := by
  have one := placeOrder_length_mayExist m call.labelled
  rw [clientPlaceOrder]
  cases configured with
  | false => simp
  | true =>
      cases exchange with
      | answered => simpa [Exchange.served] using one
      | notJson status text decode served =>
          by_cases ok : status = 200 ∨ status = 201
          · cases served <;> simp [ok, Exchange.served, one]
          · cases served <;> simp [ok, Exchange.served, one]
      | neverSent e => simp [Exchange.served]
      | broken e served => cases served <;> simp [Exchange.served, one]

theorem classifiedSoundly_iff (configured : Bool) (exchange : Exchange) (m : Terminal)
    (call : OrderCall) :
    ClassifiedSoundly configured exchange m call ↔
      (configured = true → faithfulExchange exchange m call.labelled = true) := by
  rw [ClassifiedSoundly, clientPlaceOrder]
  cases configured with
  | false => simp
  | true =>
      cases exchange with
      | answered =>
          simp only [faithfulExchange, Exchange.served, Bool.not_eq_true', forall_const]
          exact placeOrder_misreported m call.labelled
      | notJson status text decode served =>
          by_cases ok : status = 200 ∨ status = 201
          · simp [ok, faithfulExchange, sendFailure, OrderReply.isPlainError, OrderReply.lost]
          · cases served with
            | false => simp [ok, faithfulExchange, Exchange.served]
            | true =>
                have left := placeOrder_mayExist m call.labelled
                simpa [ok, faithfulExchange, Exchange.served, OrderReply.isPlainError,
                  OrderReply.plain] using left
      | neverSent e => simp [faithfulExchange, Exchange.served]
      | broken e served =>
          simp [faithfulExchange, sendFailure, OrderReply.isPlainError, OrderReply.lost]

def Terminal.answering (retcode : ℕ) : Terminal where
  connected := true
  lastConnectError := ""
  tick := .value ⟨2000, 2001⟩
  symbol := .value ⟨4, 1 / 100, 1 / 100, 100, 1 / 100, 0, 0⟩
  tradeAllowed := .value true
  orderSend request := .answered ⟨retcode, 7001, request.price, request.volume, ""⟩
  lastError := .ok ""

def OrderCall.oneLot : OrderCall := ⟨.buy, 1, some 1990, some 2010, "py:t1"⟩

theorem partial_fill_reported_as_rejection :
    ¬ ClassifiedSoundly true .answered (.answering retcodeDonePartial) .oneLot := by
  rw [ClassifiedSoundly]
  decide +kernel

end Forex
