import CardPayments.Price

/-!
# Orders

What a customer has ordered, as far as paying for it is concerned: who they are, what it costs and
where the bill goes.
-/

namespace CardPayments

structure BillingAddress where
  givenName : String
  familyName : String
  addressLine1 : String
  addressLine2 : String
  postalCode : String
deriving DecidableEq, Inhabited

structure Order where
  id : String
  customerId : String
  email : String
  totalPrice : Price
  billing : Option BillingAddress
deriving DecidableEq, Inhabited

namespace BillingAddress

def blank : BillingAddress := ⟨"", "", "", "", ""⟩

/-- Given name and family name, without the blank between them where one is missing. -/
def contactName (b : BillingAddress) : String := Text.trim (b.givenName ++ " " ++ b.familyName)

def toJson (b : BillingAddress) : Json :=
  .obj [("given_name", .str b.givenName), ("family_name", .str b.familyName),
    ("address_line1", .str b.addressLine1), ("address_line2", .str b.addressLine2),
    ("postal_code", .str b.postalCode)]

def fieldNames : List String :=
  ["given_name", "family_name", "address_line1", "address_line2", "postal_code"]

def ofJson? (j : Json) : Option BillingAddress := do
  match ← j.fields? fieldNames 5 with
  | [given, family, line1, line2, postal] =>
    some ⟨← Json.required Json.string? given, ← Json.required Json.string? family,
      ← Json.required Json.string? line1, ← Json.defaulted "" Json.string? line2,
      ← Json.required Json.string? postal⟩
  | _ => none

end BillingAddress

namespace Order

def toJson (o : Order) : Json :=
  .obj ([("id", .str o.id), ("customer_id", .str o.customerId), ("email", .str o.email),
    ("total_price", o.totalPrice.toJson)] ++ o.billing.toList.map fun b => ("billing", b.toJson))

def ofJson? (j : Json) : Option Order := do
  match ← j.fields? ["id", "customer_id", "email", "total_price", "billing"] 4 with
  | [id, customerId, email, totalPrice, billing] =>
    some ⟨← Json.required Json.string? id, ← Json.required Json.string? customerId,
      ← Json.required Json.string? email, ← Json.required Price.ofJson? totalPrice,
      ← Json.optional BillingAddress.ofJson? billing⟩
  | _ => none

end Order

end CardPayments
