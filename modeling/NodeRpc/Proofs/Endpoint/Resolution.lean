import NodeRpc.Endpoint.Credentials
import NodeRpc.Proofs.Text.Encoding
import NodeRpc.Proofs.Text.Lines

/-!
# Whose credentials are used

A user and a password that are given together need no cookie file, and one alone is refused with or
without one. Else a cookie file decides, and it gives the one user and the one password that its
first line can be read as (`CookieFile.Gives`), or it is refused.

What a file gives is said by how its text is put together: a line, white space around it, and in the
line a user, a colon and a password. It is not said by cutting anything, and the functions that cut
are shown to find the parts that are said to be there. That makes the choices visible that a cutting
function hides. The colon is the first one, so a password may hold colons and a user may not. White
space at the ends is not part of either, and inside the line it is. Neither of the two may be empty.
And the file is a text at all, so one with bytes that are none is refused even if its first line
would do.

A file that could not be read is a file that gives nothing. The error differs for each reason, and
all of them are errors of the configuration that name the path.
-/

namespace NodeRpc

/-- The credentials a cookie file gives: it holds a text, whose first line between white space is
the user, a colon and the password. The first colon is the one between the two, and neither of them
is empty. -/
def CookieFile.Gives (cookie : CookieFile) (credentials : Credentials) : Prop :=
  ∃ text line, cookie.content = .ok (Text.utf8Bytes text) ∧ Text.FirstLine text line ∧
    Text.Stripped line (credentials.user.toList ++ ':' :: credentials.password.toList) ∧
    credentials.user ≠ "" ∧ ':' ∉ credentials.user.toList ∧ credentials.password ≠ ""

namespace Credentials

/-! ## What a cookie file gives

The iffs, one for each step, with the reading of the text in front. -/

/-- The sides of the first colon are the credentials unless one of them is empty. -/
theorem ofCookieText_eq_ok_iff {text : List Char} {credentials : Credentials} :
    ofCookieText text = .ok credentials ↔
      Text.trim (Text.firstLine text) =
        credentials.user.toList ++ ':' :: credentials.password.toList ∧
      credentials.user ≠ "" ∧ ':' ∉ credentials.user.toList ∧ credentials.password ≠ "" := by
  obtain ⟨user, password⟩ := credentials
  simp only [ofCookieText, ← String.toList_eq_nil_iff, ne_eq]
  generalize Text.trim (Text.firstLine text) = line
  constructor
  · intro hread
    split at hread
    · cases hread
    · split at hread
      · cases hread
      · rename_i front back hsplit
        obtain ⟨hline, hcolon⟩ := Text.splitOnce_eq_some_iff.1 hsplit
        split at hread
        · cases hread
        · rename_i hfull
          cases hread
          simp only [List.isEmpty_iff, not_or] at hfull
          simp only [String.toList_ofList]
          exact ⟨hline, hfull.1, hcolon, hfull.2⟩
  · rintro ⟨hline, huser, hcolon, hpassword⟩
    have hsplit := Text.splitOnce_eq_some_iff.2 ⟨hline, hcolon⟩
    have hsome : line.isEmpty = false := by simp [hline]
    simp [hsome, hsplit, huser, hpassword]

theorem ofCookie_eq_ok_iff {cookie : CookieFile} {credentials : Credentials} :
    ofCookie cookie = .ok credentials ↔ cookie.Gives credentials := by
  have hline (text : List Char) (core : List Char) : Text.trim (Text.firstLine text) = core ↔
      ∃ line, Text.FirstLine text line ∧ Text.Stripped line core := by
    simp only [← Text.firstLine_eq_iff, ← Text.trim_eq_iff, exists_eq_left']
  rw [ofCookie, CookieFile.Gives]
  constructor
  · intro hread
    split at hread
    · cases hread
    · rename_i bytes hcontent
      split at hread
      · cases hread
      · rename_i text htext
        rw [ofCookieText_eq_ok_iff, hline] at hread
        obtain ⟨⟨line, first, core⟩, parts⟩ := hread
        rw [Text.textOfUtf8?_eq_some_iff.1 htext] at hcontent
        exact ⟨text, line, hcontent, first, core, parts⟩
  · rintro ⟨text, line, hcontent, first, core, parts⟩
    simp only [hcontent, Text.textOfUtf8?_eq_some_iff.2 rfl]
    exact ofCookieText_eq_ok_iff.2 ⟨(hline text _).2 ⟨line, first, core⟩, parts⟩

/-- Credentials that a line of their own says: the first colon is behind the user, and no white
space is at the ends. -/
structure FitLine (credentials : Credentials) : Prop where
  user_nonempty : credentials.user ≠ ""
  user_noColon : ':' ∉ credentials.user.toList
  user_front : ∀ c ∈ credentials.user.toList.head?, ¬ Text.isBlank c
  user_noFeed : '\n' ∉ credentials.user.toList
  password_nonempty : credentials.password ≠ ""
  password_back : ∀ c ∈ credentials.password.toList.getLast?, ¬ Text.isBlank c
  password_noFeed : '\n' ∉ credentials.password.toList

/-- A file with such a line in front of all else gives them. -/
theorem FitLine.gives {credentials : Credentials} (fit : FitLine credentials) (path : String)
    {rest : List Char} (ends : rest = [] ∨ ∃ more, rest = '\n' :: more) :
    CookieFile.Gives ⟨path, .ok (Text.utf8Bytes
      (credentials.user.toList ++ ':' :: credentials.password.toList ++ rest))⟩ credentials := by
  obtain ⟨user, password⟩ := credentials
  refine ⟨_, user.toList ++ ':' :: password.toList, rfl, ⟨rest, rfl, ?_, ends⟩,
    ⟨[], [], by simp, by simp, by simp, ?_, ?_⟩, fit.user_nonempty, fit.user_noColon,
    fit.password_nonempty⟩
  · simpa using ⟨fit.user_noFeed, fit.password_noFeed⟩
  · have hfull : user.toList ≠ [] := mt String.toList_eq_nil_iff.1 fit.user_nonempty
    rw [List.head?_append_of_ne_nil _ hfull]
    exact fit.user_front
  · have hfull : password.toList ≠ [] := mt String.toList_eq_nil_iff.1 fit.password_nonempty
    rw [List.append_cons, List.getLast?_append_of_ne_nil _ hfull]
    exact fit.password_back

/-! ## What is used

Success and refusal come from one lemma in which they are the two cases, so that none is left in
between. -/

theorem choose_cookie (cookie : CookieFile) :
    (∃ credentials, ofCookie cookie = .ok credentials ∧
      choose none none (some cookie) = .ok (some credentials)) ∨
    ∃ fault, ofCookie cookie = .error fault ∧
      choose none none (some cookie) = .error (.invalidConfig (fault.message cookie.path)) := by
  cases hread : ofCookie cookie with
  | ok credentials => exact .inl ⟨credentials, rfl, by simp [choose, hread]⟩
  | error fault => exact .inr ⟨fault, rfl, by simp [choose, hread]⟩

theorem choose_cookie_eq_ok_iff {cookie : CookieFile} {credentials : Credentials} :
    choose none none (some cookie) = .ok (some credentials) ↔ cookie.Gives credentials := by
  rw [← ofCookie_eq_ok_iff]
  rcases choose_cookie cookie with ⟨found, hread, huse⟩ | ⟨fault, hread, huse⟩
  · simp [hread, huse]
  · simp [hread, huse]

/-- **The credentials that are used.** A user and a password win over any cookie file, one of them
alone is refused with any, and without all three there are none. A cookie file alone decides by what
it gives, and it is refused if it gives nothing. So a file gives what its first line says, whatever
follows.

A cookie file that is given along with a user and a password is not so much as opened, and it may be
missing. -/
theorem credentials_resolved :
    (∀ user password cookie,
      choose (some user) (some password) cookie = .ok (some ⟨user, password⟩)) ∧
    (∀ given cookie,
      choose (some given) none cookie =
        .error (.invalidConfig "both rpc user and rpc pass must be set together") ∧
      choose none (some given) cookie =
        .error (.invalidConfig "both rpc user and rpc pass must be set together")) ∧
    choose none none none = .ok none ∧
    (∀ cookie : CookieFile,
      (∀ credentials,
        choose none none (some cookie) = .ok (some credentials) ↔ cookie.Gives credentials) ∧
      ((∀ credentials, ¬ cookie.Gives credentials) →
        ∃ fault : CookieFault, choose none none (some cookie) =
          .error (.invalidConfig (fault.message cookie.path)))) ∧
    ∀ (credentials : Credentials) (path : String) (rest : List Char), FitLine credentials →
      (rest = [] ∨ ∃ more, rest = '\n' :: more) →
      choose none none (some ⟨path, .ok (Text.utf8Bytes
          (credentials.user.toList ++ ':' :: credentials.password.toList ++ rest))⟩) =
        .ok (some credentials) := by
  refine ⟨fun _ _ _ => rfl, fun _ _ => ⟨rfl, rfl⟩, rfl, fun cookie => ⟨fun credentials => ?_, ?_⟩,
    fun credentials path rest fit ends => ?_⟩
  · exact choose_cookie_eq_ok_iff
  · intro nothing
    rcases choose_cookie cookie with ⟨credentials, hread, -⟩ | ⟨fault, -, hrefused⟩
    · exact absurd (ofCookie_eq_ok_iff.1 hread) (nothing credentials)
    · exact ⟨fault, hrefused⟩
  · exact choose_cookie_eq_ok_iff.2 (fit.gives path ends)

/-- White space of several kinds stands around the first line, more colons and a character of
several bytes inside it, and a line follows that looks like credentials too. -/
theorem credentials_resolved_crowdedLine :
    choose none none (some ⟨"cookie", .ok (Text.utf8Bytes
        "\u2003 us er:pä:ss :\r\nother:line".toList)⟩) = .ok (some ⟨"us er", "pä:ss :"⟩) ∧
    choose none none (some ⟨"cookie", .ok (Text.utf8Bytes "us er:pä:ss :\n\n:".toList)⟩) =
      .ok (some ⟨"us er", "pä:ss :"⟩) := by
  refine ⟨((credentials_resolved.2.2.2.1 _).1 ⟨"us er", "pä:ss :"⟩).2 ?_,
    credentials_resolved.2.2.2.2 ⟨"us er", "pä:ss :"⟩ "cookie" "\n\n:".toList ?_
      (.inr ⟨"\n:".toList, rfl⟩)⟩
  · exact ⟨_, "\u2003 us er:pä:ss :\r".toList, rfl,
      ⟨"\nother:line".toList, by decide, by decide, .inr ⟨"other:line".toList, by decide⟩⟩,
      ⟨"\u2003 ".toList, "\r".toList, by decide, by simp [Text.isBlank], by simp [Text.isBlank],
        by simp [Text.isBlank], by simp [Text.isBlank]⟩,
      by decide, by decide, by decide⟩
  · constructor <;> simp [Text.isBlank]

end Credentials
end NodeRpc
