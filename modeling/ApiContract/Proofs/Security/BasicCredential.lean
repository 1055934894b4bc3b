import ApiContract.Proofs.Base64
import ApiContract.Proofs.Trimming
import ApiContract.Proofs.Utf8
import ApiContract.Security.Credential

/-! # Reading a basic credential

A basic credential is a user name, a colon and a password, in UTF-8 and then in Base64.  Both encodings are
read back exactly, and of the colons the first one parts the two names; so a credential is read as one user
name and one password, whatever they are, unless there is a colon in the user name
(`Credential.basic?_eq_some_iff`). -/

namespace ApiContract.Credential

/-- The text of a user name and a password as a basic credential. -/
def basicText (user password : String) : List Char :=
  Base64.encode (Utf8.encode (user ++ ":" ++ password).toList)

/-- Reading accepts exactly the credentials that are written so, with blanks around them. -/
theorem basic?_eq_some_iff (credential user password : String) :
    basic? credential = some (user, password) ↔
      ':' ∉ user.toList ∧ Text.trim credential.toList = basicText user password := by
  constructor
  · intro read
    obtain ⟨bytes, encoded, read⟩ := Option.bind_eq_some_iff.1 read
    obtain ⟨text, written, read⟩ := Option.bind_eq_some_iff.1 read
    obtain ⟨⟨before, after⟩, cut, read⟩ := Option.bind_eq_some_iff.1 read
    cases read
    obtain ⟨whole, colon, is_colon, rfl⟩ := Text.cutAt?_eq_some_iff.1 cut
    obtain rfl : colon = ':' := by simpa using is_colon
    obtain rfl := Utf8.decode?_eq_some_iff.1 written
    refine ⟨?_, ?_⟩
    · rw [String.toList_ofList]
      exact fun mem => absurd (whole ':' mem) (by simp)
    · rw [Base64.decode?_eq_some_iff.1 encoded, basicText]
      simp
  · rintro ⟨whole, encoded⟩
    have cut : Text.cutAt? (· = ':') (user.toList ++ ':' :: password.toList) =
        some (user.toList, password.toList) :=
      Text.cutAt?_append_cons (fun c mem => by simpa using ne_of_mem_of_not_mem mem whole) rfl _
    have joined : (user ++ ":" ++ password).toList = user.toList ++ ':' :: password.toList := by simp
    rw [basic?, encoded, basicText, Base64.decode?_encode, joined]
    simp [Utf8.decode?_encode, cut]

/-- In the password there may be colons. -/
example : basicText "user" "pa:ss" = "dXNlcjpwYTpzcw==".toList := by decide

end ApiContract.Credential
