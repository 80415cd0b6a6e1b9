import DoubleAuction.Proofs.Ledger.Supply

/-! # The books of a token

A token writes down every attempt to send, with the next number, and keeps the latest attempt and
the latest transfer. Issuing leaves these as they are.
-/

namespace DoubleAuction

namespace Token

/-- The books of a token agree with the attempts to send that were made on it. -/
structure Books (token : Token) (attempts : List Transfer) : Prop where
  nextSeq : token.nextSeq = .ofNat (attempts.length + 1)
  lastSuccess : token.lastSuccess = (attempts.filter (·.success)).getLast?

section Books

variable {token : Token} {attempts : List Transfer}

theorem books_create (address issuer : Address) : (create address issuer).Books [] := ⟨rfl, rfl⟩

theorem Books.issue (books : token.Books attempts) (caller recipient : Address) (amount : Amount) :
    (token.issue caller recipient amount).2.Books attempts := by
  unfold Token.issue
  split <;> exact ⟨books.nextSeq, books.lastSuccess⟩

/-- An attempt is written down under the next number. -/
theorem Books.record (books : token.Books attempts) (sender recipient : Address) (amount : Amount)
    (success : Bool) :
    (token.record sender recipient amount success).Books
      (attempts ++ [⟨.ofNat (attempts.length + 1), sender, recipient, amount, success⟩]) := by
  constructor
  · simp only [Token.record, books.nextSeq, List.length_append, List.length_singleton]
    exact (UInt64.ofNat_add _ 1).symm
  · cases success with
    | false => simpa [Token.record] using books.lastSuccess
    | true => simp [Token.record, books.nextSeq]

theorem Books.move (books : token.Books attempts) (sender recipient : Address) (amount : Amount) :
    (token.move sender recipient amount).Books attempts := by
  unfold Token.move
  split <;> exact ⟨books.nextSeq, books.lastSuccess⟩

theorem Books.send (books : token.Books attempts) (sender recipient : Address) (amount : Amount) :
    (token.send sender recipient amount).2.Books
      (attempts ++ [⟨.ofNat (attempts.length + 1), sender, recipient, amount,
        (token.send sender recipient amount).1⟩]) := by
  unfold Token.send
  split
  case isTrue => exact (books.move sender recipient amount).record sender recipient amount true
  case isFalse => exact books.record sender recipient amount false

end Books

end Token

end DoubleAuction
