import ChmabaPay.Operations
import ChmabaPay.Services.Provisioning

/-! # Retention of gateway payloads

The raw answer of the gateway, with the session token of a hosted code, is cleared once a
payment is older than the window. The purge runs beside the platform's operations and the
edits of stores and links.
-/

namespace ChmabaPay

open Calendar Relational Execution

/-- The payments a purge clears. -/
def isPurgeable (now : Instant) (olderThanDays : Int) (payment : Payment) : Bool :=
  decide (payment.createdAt < now - days olderThanDays) && payment.gatewayStatusRaw.isSome

def Payment.clearGateway (payment : Payment) : Payment := { payment with gatewayStatusRaw := none }

/-- Clear raw gateway payloads on payments older than the window. A window that is not
positive means that nothing is purged. -/
def purgeGatewayPayloads (now : Instant) (tables : Tables) (olderThanDays : Int) : ℕ × Tables :=
  if olderThanDays ≤ 0 then (0, tables)
  else
    ((tables.payments.select fun _ payment => isPurgeable now olderThanDays payment).length,
      { tables with
        payments := tables.payments.updateWhere
          (fun _ payment => isPurgeable now olderThanDays payment) Payment.clearGateway })

/-! ## Runs -/

/-- What happens around a payment: the operations of the platform, the purge, and the
calls that edit stores and their links. -/
inductive Chore where
  | operate (op : Op)
  | purge (olderThanDays : Int)
  | provision (request : StoreRequest)

/-- A session's tables become the database, or the database stays as it was. -/
def conclude (world : World) (moment : Instant) (tables : Tables) (response : Response) :
    World × Except Failure Response :=
  match tables.commit with
  | .error failure => ({ world with clock := moment }, .error failure)
  | .ok db => ({ clock := moment, db := db }, .ok response)

/-- One chore, some microseconds after the previous one. -/
def choreStep (settings : Settings) (world : World) (input : ℕ × Chore) :
    World × Except Failure Response :=
  let moment := world.clock + input.1
  match input.2 with
  | .operate op => step settings world ⟨input.1, op⟩
  | .purge olderThanDays =>
      conclude world moment (purgeGatewayPayloads moment world.db.tables olderThanDays).2 .done
  | .provision request =>
      match provisionStep settings world.db.tables request with
      | (_, .error failure) => ({ world with clock := moment }, .error failure)
      | (tables, .ok _) => conclude world moment tables .done

end ChmabaPay
