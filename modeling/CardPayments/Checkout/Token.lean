import CardPayments.Gateway.Failure

/-!
# Checkout tokens

A checkout carries a token in the place of the card. The processor's tokenizer issues tokens; a mock
token stands in for one in tests and is known by how it begins. Builds that do not know mock tokens
refuse them when they are read.
-/

namespace CardPayments

def mockTokenStart : List Char := "test_token_".toList

inductive CheckoutToken where
  | provider (text : String)
  | mock (text : String)
deriving DecidableEq

namespace CheckoutToken

def text : CheckoutToken → String
  | .provider text => text
  | .mock text => text

/-- The token of a submitted text, blanks around it aside. -/
def parse (knowsMockTokens : Bool) (submitted : String) : Except Failure CheckoutToken :=
  let token := Text.trim submitted
  if token.isEmpty then .error .missingToken
  else if mockTokenStart.isPrefixOf token.toList then
    if knowsMockTokens then .ok (.mock token) else .error .mockTokenRejected
  else .ok (.provider token)

end CheckoutToken

abbrev mockTailLength : Nat := 9

def base36Digit (n : Fin 36) : Char := Nat.digitChar n.val |> fun c =>
  if n.val < 16 then c else Char.ofNat ('a'.toNat + (n.val - 10))

/-- The mock token of an instant with nine digits of base 36 that set it apart. -/
def mockToken (now : Instant) (tail : List (Fin 36)) : String :=
  String.ofList (mockTokenStart ++ (toString now.millis).toList ++ '_' :: tail.map base36Digit)

end CardPayments
