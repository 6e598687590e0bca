import PaymentUri.Proofs.Check
import PaymentUri.Proofs.Decimal
import PaymentUri.Proofs.SmallLetters
import PaymentUri.Proofs.Split

namespace PaymentUri

namespace Text

theorem drop_length_takeWhile (p : Char → Bool) (cs : List Char) :
    cs.drop (cs.takeWhile p).length = cs.dropWhile p := by
  have hstart := List.prefix_iff_eq_append.mp (List.takeWhile_prefix (l := cs) p)
  exact List.append_cancel_left (hstart.trans List.takeWhile_append_dropWhile.symm)

theorem takeWhile_dropWhile (p : Char → Bool) (cs : List Char) : (cs.dropWhile p).takeWhile p = [] := by
  rw [List.takeWhile_eq_nil_iff]
  intro hpos
  simpa using List.dropWhile_get_zero_not p cs hpos

end Text

namespace Endpoint

open Text

variable {text scheme host : String} {url : Url} {c : Char} {cs authority : List Char} {useHttps : Bool} {n : Nat}

def kept (text : String) : List Char :=
  (text.toList.dropWhile (·.toNat ≤ 0x20)).filter fun c => !(c == '\t' || c == '\r' || c == '\n')

def isDeceptive (c : Char) : Bool := deceptiveChars.contains c.toNat

def checked (scheme : String) (authority : List Char) : Except UrlFault Url := do
  checkBrackets authority
  if authority.any isDeceptive then throw (.deceptive (String.ofList authority))
  return ⟨scheme, authority⟩

theorem read_eq (text : String) :
    Url.read text = checked (splitScheme (kept text)).1 (authorityOf (splitScheme (kept text)).2) := rfl

theorem checked_eq_ok_iff :
    checked scheme authority = .ok url ↔
      checkBrackets authority = .ok () ∧ authority.any isDeceptive = false ∧ ⟨scheme, authority⟩ = url := by
  rw [checked, bind_eq_ok_iff]
  cases authority.any isDeceptive with
  | true =>
      refine iff_of_false ?_ fun h => nomatch h.2.1
      rintro ⟨⟨⟩, -, h⟩
      cases h
  | false =>
      constructor
      · rintro ⟨⟨⟩, hbrackets, h⟩
        exact ⟨hbrackets, rfl, Except.ok.inj h⟩
      · rintro ⟨hbrackets, -, rfl⟩
        exact ⟨(), hbrackets, rfl⟩

theorem mem_of_mem_splitScheme (h : c ∈ (splitScheme cs).2) : c ∈ cs := by
  rw [splitScheme] at h
  split at h
  next before rest hcut =>
    split at h
    next =>
      obtain ⟨-, rfl⟩ := cut?_eq_some_iff.mp hcut
      exact List.mem_append_right _ (List.mem_cons_of_mem _ h)
    next => exact h
  next => exact h

theorem mem_authorityOf (h : c ∈ authorityOf cs) : c ∈ cs ∧ (c == '/' || c == '?' || c == '#') = false := by
  rw [authorityOf.eq_def] at h
  split at h
  next cs =>
    have hend := List.mem_takeWhile_imp h
    exact ⟨List.mem_cons_of_mem _ (List.mem_cons_of_mem _ (List.takeWhile_subset _ h)), by simpa using hend⟩
  next => cases h

theorem not_outside_iff :
    c.toNat ∉ outside ↔ (c == '\t' || c == '\r' || c == '\n') = false ∧ (c == '/' || c == '?' || c == '#') = false ∧
      isDeceptive c = false := by
  have hlines : outside = [0x09, 0x0A, 0x0D] ++ [0x23, 0x2F, 0x3F] ++ deceptiveChars := rfl
  rw [hlines, isDeceptive]
  simp [Char.ext_iff, UInt32.ext_iff]
  tauto

theorem not_outside_of_read (h : Url.read text = .ok url) (hc : c ∈ url.authority) : c.toNat ∉ outside := by
  rw [read_eq, checked_eq_ok_iff] at h
  obtain ⟨-, hany, rfl⟩ := h
  obtain ⟨hmem, hend⟩ := mem_authorityOf hc
  have hkept := List.of_mem_filter (mem_of_mem_splitScheme hmem)
  exact not_outside_iff.mpr ⟨by simpa using hkept, hend, by simpa using List.any_eq_false.mp hany c hc⟩

def lowerHost (host : List Char) : List Char :=
  lower (host.takeWhile (· != '%')) ++ host.dropWhile (· != '%')

theorem host?_eq (url : Url) :
    url.host? = if url.place.1.isEmpty then none else some (String.ofList (lowerHost url.place.1)) := by
  rw [Url.host?, lowerHost, ← drop_length_takeWhile]

theorem mem_lowerHost_iff (hc : c.toNat ∈ marks) : c ∈ lowerHost cs ↔ c ∈ cs := by
  rw [lowerHost, List.mem_append, mem_lower_iff hc, ← List.mem_append, List.takeWhile_append_dropWhile]

theorem ne_percent_of_mem_lower (h : c ∈ lower (cs.takeWhile (· != '%'))) : (c != '%') = true := by
  rw [bne_iff_ne]
  rintro rfl
  have hmem := (mem_lower_iff (by decide)).mp h
  simpa using List.mem_takeWhile_imp hmem

theorem lowerHost_lowerHost (cs : List Char) : lowerHost (lowerHost cs) = lowerHost cs := by
  have hname : (lowerHost cs).takeWhile (· != '%') = lower (cs.takeWhile (· != '%')) := by
    rw [lowerHost, List.takeWhile_append_of_pos fun _ => ne_percent_of_mem_lower, takeWhile_dropWhile,
      List.append_nil]
  have hzone : (lowerHost cs).dropWhile (· != '%') = cs.dropWhile (· != '%') := by
    rw [lowerHost, List.dropWhile_append_of_pos fun _ => ne_percent_of_mem_lower, List.dropWhile_idempotent]
  rw [lowerHost, hname, hzone, lower_lower]
  rfl

theorem mem_place (h : c ∈ url.place.1) : c ∈ url.authority ∧ c ≠ '@' := by
  rw [Url.place] at h
  dsimp only at h
  have hplace : c ∈ afterLast '@' url.authority := by
    split at h
    next before rest hcut =>
      obtain ⟨-, hsame⟩ := cut?_eq_some_iff.mp hcut
      rw [hsame]
      exact List.mem_append_right _ (List.mem_cons_of_mem _ (mem_of_mem_cut_fst h))
    next => exact mem_of_mem_cut_fst h
  obtain ⟨hne, hmem⟩ := mem_of_mem_afterLast hplace
  exact ⟨hmem, hne⟩

theorem not_mem_place_brackets (url : Url) : '[' ∉ url.place.1 ∨ ']' ∉ url.place.1 := by
  rw [Url.place]
  dsimp only
  split
  next => exact .inr (not_mem_cut_fst _ _)
  next hcut => exact .inl (mt mem_of_mem_cut_fst (cut?_eq_none_iff.mp hcut))

theorem exists_place_of_host? (h : url.host? = some text) :
    url.place.1 ≠ [] ∧ text.toList = lowerHost url.place.1 := by
  rw [host?_eq] at h
  split at h
  next => cases h
  next hne =>
    rw [← Option.some.inj h, String.toList_ofList]
    exact ⟨by simpa using hne, rfl⟩

theorem lowerHost_ne_nil (h : cs ≠ []) : lowerHost cs ≠ [] := by
  intro hnil
  obtain ⟨hname, hzone⟩ := List.append_eq_nil_iff.mp hnil
  have hname' : cs.takeWhile (· != '%') = [] := Classical.byContradiction fun hne => lower_ne_nil hne hname
  rw [← List.takeWhile_append_dropWhile (p := (· != '%')) (l := cs), hname', hzone] at h
  exact h rfl

/-- A host as it is read: in small letters, and without what divides an authority. -/
structure IsHost (host : List Char) : Prop where
  ne_nil : host ≠ []
  small : lowerHost host = host
  outside : ∀ c ∈ host, c.toNat ∉ Endpoint.outside
  caller : '@' ∉ host
  brackets : '[' ∉ host ∨ ']' ∉ host

theorem isHost_of_host? (hread : Url.read text = .ok url) (h : url.host? = some host) : IsHost host.toList := by
  obtain ⟨hne, heq⟩ := exists_place_of_host? h
  have hmem {c : Char} (hmark : c.toNat ∈ marks) : c ∈ lowerHost url.place.1 ↔ c ∈ url.place.1 :=
    mem_lowerHost_iff hmark
  rw [heq]
  refine ⟨lowerHost_ne_nil hne, lowerHost_lowerHost _, fun c hc hout => ?_, fun hat => ?_, ?_⟩
  · have hplace := (hmem (List.mem_append_right _ hout)).mp hc
    exact not_outside_of_read hread (mem_place hplace).1 hout
  · exact (mem_place ((hmem (by decide)).mp hat)).2 rfl
  · rw [hmem (by decide), hmem (by decide)]
    exact not_mem_place_brackets url

def written (useHttps : Bool) (host : String) (port : Nat) : String :=
  (if useHttps then "https" else "http") ++ "://" ++ host ++ ":" ++ toString port

def writtenAuthority (host : String) (port : Nat) : List Char := host.toList ++ ':' :: Nat.toDigits 10 port

theorem toList_written (useHttps : Bool) (host : String) (port : Nat) :
    (written useHttps host port).toList =
      (if useHttps then "https" else "http").toList ++ ':' :: '/' :: '/' :: writtenAuthority host port := by
  have hdigits : (toString port).toList = Nat.toDigits 10 port := Nat.toList_repr
  have hslashes : "://".toList = [':', '/', '/'] ∧ ":".toList = [':'] := ⟨rfl, rfl⟩
  simp only [written, writtenAuthority, String.toList_append, hdigits, hslashes, List.append_assoc, List.cons_append,
    List.nil_append]

theorem written_ne_empty (useHttps : Bool) (host : String) (port : Nat) : written useHttps host port ≠ "" := by
  intro hempty
  have hlist := toList_written useHttps host port
  rw [hempty] at hlist
  cases (List.append_eq_nil_iff.mp hlist.symm).2

theorem not_outside_of_isDigit (h : c.isDigit = true) : c.toNat ∉ outside := by
  have hhigh : c.toNat ≤ 57 := (Char.isDigit_iff_toNat.mp h).2
  have hlow : 48 ≤ c.toNat := (Char.isDigit_iff_toNat.mp h).1
  have hall : ∀ n ∈ outside, n < 48 ∨ 57 < n := by decide
  intro hout
  have := hall _ hout
  omega

theorem mem_writtenAuthority_iff {port : Nat} :
    c ∈ writtenAuthority host port ↔ c ∈ host.toList ∨ c = ':' ∨ c ∈ Nat.toDigits 10 port := by
  rw [writtenAuthority, List.mem_append, List.mem_cons]

theorem not_outside_of_mem_writtenAuthority {port : Nat} (hhost : IsHost host.toList)
    (h : c ∈ writtenAuthority host port) : c.toNat ∉ outside := by
  rcases mem_writtenAuthority_iff.mp h with h | rfl | h
  · exact hhost.outside c h
  · decide
  · exact not_outside_of_isDigit (isDigit_of_mem_toDigits h)

theorem mem_writtenAuthority_of_mark {port : Nat} (hcolon : c ≠ ':') (hdigit : c.isDigit = false) :
    c ∈ writtenAuthority host port ↔ c ∈ host.toList := by
  rw [mem_writtenAuthority_iff]
  constructor
  · rintro (h | h | h)
    · exact h
    · exact absurd h hcolon
    · exact absurd (isDigit_of_mem_toDigits h) (by simp [hdigit])
  · exact .inl

theorem kept_written {port : Nat} (hhost : IsHost host.toList) :
    kept (written useHttps host port) = (written useHttps host port).toList := by
  have hstart : (written useHttps host port).toList.dropWhile (·.toNat ≤ 0x20) =
      (written useHttps host port).toList := by
    rw [toList_written]
    cases useHttps <;> rfl
  rw [kept, hstart, List.filter_eq_self]
  intro c hc
  rw [toList_written, List.mem_append, List.mem_cons, List.mem_cons, List.mem_cons] at hc
  rcases hc with hc | rfl | rfl | rfl | hc
  · have hscheme : ((if useHttps then "https" else "http").toList.all
        fun c => !(c == '\t' || c == '\r' || c == '\n')) = true := by
      cases useHttps <;> rfl
    exact List.all_eq_true.mp hscheme c hc
  · rfl
  · rfl
  · rfl
  · rw [(not_outside_iff.mp (not_outside_of_mem_writtenAuthority hhost hc)).1]
    rfl

theorem splitScheme_written (useHttps : Bool) (host : String) (port : Nat) :
    splitScheme (written useHttps host port).toList =
      (if useHttps then "https" else "http", '/' :: '/' :: writtenAuthority host port) := by
  have hcut (cs : List Char) : cut? ':' ((if useHttps then "https" else "http").toList ++ ':' :: cs) =
      some ((if useHttps then "https" else "http").toList, cs) := by
    rw [cut?_append_cons]
    cases useHttps <;> decide
  rw [splitScheme, toList_written, hcut]
  cases useHttps
  · rfl
  · rfl

theorem authorityOf_written {port : Nat} (hhost : IsHost host.toList) :
    authorityOf ('/' :: '/' :: writtenAuthority host port) = writtenAuthority host port := by
  rw [authorityOf, List.takeWhile_eq_self_iff]
  intro c hc
  rw [(not_outside_iff.mp (not_outside_of_mem_writtenAuthority hhost hc)).2.1]
  rfl

theorem read_written {port : Nat} (hhost : IsHost host.toList) :
    Url.read (written useHttps host port) = (checkBrackets (writtenAuthority host port)).map fun _ =>
      ⟨if useHttps then "https" else "http", writtenAuthority host port⟩ := by
  have hplain : (writtenAuthority host port).any isDeceptive = false := by
    rw [List.any_eq_false]
    intro c hc
    rw [(not_outside_iff.mp (not_outside_of_mem_writtenAuthority hhost hc)).2.2]
    exact Bool.false_ne_true
  rw [read_eq, kept_written hhost, splitScheme_written, authorityOf_written hhost, checked, hplain]
  cases checkBrackets (writtenAuthority host port) <;> rfl

theorem checkBrackets_of_not_mem (hopen : '[' ∉ authority) (hclose : ']' ∉ authority) :
    checkBrackets authority = .ok () := by
  rw [checkBrackets, List.contains_eq_mem, List.contains_eq_mem, decide_eq_false hopen, decide_eq_false hclose]
  rfl

theorem checkBrackets_of_mem (h : ¬('[' ∈ authority ↔ ']' ∈ authority)) :
    checkBrackets authority = .error .brackets := by
  rw [checkBrackets, if_pos]
  simpa [List.contains_eq_mem] using h

theorem read_written_of_bare {port : Nat} (hhost : IsHost host.toList) (hopen : '[' ∉ host.toList)
    (hclose : ']' ∉ host.toList) :
    Url.read (written useHttps host port) =
      .ok ⟨if useHttps then "https" else "http", writtenAuthority host port⟩ := by
  rw [read_written hhost, checkBrackets_of_not_mem]
  · rfl
  · rwa [mem_writtenAuthority_of_mark (by decide) (by decide)]
  · rwa [mem_writtenAuthority_of_mark (by decide) (by decide)]

theorem read_written_of_bracket {port : Nat} (hhost : IsHost host.toList)
    (hbracket : '[' ∈ host.toList ∨ ']' ∈ host.toList) :
    Url.read (written useHttps host port) = .error .brackets := by
  rw [read_written hhost, checkBrackets_of_mem]
  · rfl
  · rw [mem_writtenAuthority_of_mark (by decide) (by decide), mem_writtenAuthority_of_mark (by decide) (by decide)]
    have := hhost.brackets
    tauto

theorem place_written {port : Nat} (scheme : String) (hhost : IsHost host.toList) (hopen : '[' ∉ host.toList) :
    (Url.mk scheme (writtenAuthority host port)).place = cut ':' (writtenAuthority host port) := by
  have hat : '@' ∉ writtenAuthority host port := by
    rw [mem_writtenAuthority_of_mark (by decide) (by decide)]
    exact hhost.caller
  have hcut : cut? '[' (writtenAuthority host port) = none := by
    rwa [cut?_eq_none_iff, mem_writtenAuthority_of_mark (by decide) (by decide)]
  rw [Url.place]
  dsimp only
  rw [afterLast_of_not_mem hat, hcut]

theorem parts_written {port : Nat} (scheme : String) (hhost : IsHost host.toList) (hopen : '[' ∉ host.toList)
    (hcolon : ':' ∉ host.toList) (hport : port ≤ 65535) :
    (Url.mk scheme (writtenAuthority host port)).host? = some host ∧
      (Url.mk scheme (writtenAuthority host port)).port? = .ok (some port) := by
  have hplace : (Url.mk scheme (writtenAuthority host port)).place = cut ':' _ := place_written scheme hhost hopen
  rw [writtenAuthority, cut_append_cons hcolon, ← writtenAuthority] at hplace
  constructor
  · rw [host?_eq, hplace, hhost.small, String.ofList_toList, if_neg (by simpa using hhost.ne_nil)]
  · have hdigits : (Nat.toDigits 10 port).all Char.isDigit = true :=
      List.all_eq_true.mpr fun _ => isDigit_of_mem_toDigits
    have hsome : (Nat.toDigits 10 port).isEmpty = false := by
      rw [List.isEmpty_eq_false_iff, ← List.length_pos_iff]
      exact Nat.length_toDigits_pos
    rw [Url.port?, hplace]
    dsimp only
    rw [hsome, hdigits, ofDigits_toDigits, decide_eq_true hport]
    rfl

/-- A colon in a host takes what stands behind it for a port, which it is not. -/
theorem port?_written_of_colon {port : Nat} (hhost : IsHost host.toList) (hopen : '[' ∉ host.toList)
    (hcolon : ':' ∈ host.toList) : (Url.mk scheme (writtenAuthority host port)).port? = .error () := by
  obtain ⟨name, rest, hname, hsame, -⟩ := exists_append_of_mem hcolon
  have hplace : (Url.mk scheme (writtenAuthority host port)).place = cut ':' _ := place_written scheme hhost hopen
  rw [writtenAuthority, hsame, List.append_assoc, List.cons_append, cut_append_cons hname] at hplace
  have hmem : ':' ∈ rest ++ ':' :: Nat.toDigits 10 port := List.mem_append_right _ List.mem_cons_self
  have hdigits : (rest ++ ':' :: Nat.toDigits 10 port).all Char.isDigit = false := by
    rw [List.all_eq_false]
    exact ⟨':', hmem, by decide⟩
  have hsome : (rest ++ ':' :: Nat.toDigits 10 port).isEmpty = false := by
    rw [List.isEmpty_eq_false_iff]
    exact List.ne_nil_of_mem hmem
  rw [Url.port?, writtenAuthority, hsame, List.append_assoc, List.cons_append, hplace]
  dsimp only
  rw [hsome, hdigits]
  rfl

end Endpoint

end PaymentUri
