import Enrollment.Proofs.Client.Resources
/-!
# What proves that a request may be made

A request carries the token of its connection, unless a user stands in front of the host of its URL. The
URL of a resource names the user that the URL of the coordinator names. So where that names none, every
request to the coordinator carries the token.

Results:
 1. `credentials_resource`: a resource has the user and the password of the URL in front of it.
 2. `makeRequest_rekeyed`: with another token a request is made that carries that one.
 3. `Query.authorization_of_made`: every query carries the token.
-/

namespace Enrollment.Client

open Url (ArePlain namesText withoutSlashes)

/-! ## Users in front of hosts -/

/-- A text that, read as a URL, has neither a user nor a password in front of the host. -/
def NamesNoUser (s : String) : Prop :=
  ∀ u, Url.parse s = .ok u → ∀ a ∈ u.authority, a.username = [] ∧ a.password = []

/-- Blanks behind a host leave the user in front of it as it is. -/
theorem credentials_append_blank {usual : Option Nat} {s blank rest rest' : List Char}
    {a a' : Url.Authority} (hblank : Url.IsBlank blank) (h : Url.ReadsAs usual s a rest)
    (h' : Url.ReadsAs usual (s ++ blank) a' rest') :
    a'.username = a.username ∧ a'.password = a.password := by
  have huser := h'.username
  have hpassword := h'.password
  rw [Url.cutCredentials_append_blank s hblank] at huser hpassword
  exact ⟨huser.trans h.username.symm, hpassword.trans h.password.symm⟩

/-- A resource has the user and the password of the URL that it is put behind. -/
theorem credentials_resource {s g : String} {u v : Url} (hu : Url.parse s = .ok u)
    (hweb : u.isWeb = true) {names : List (List Char)}
    (hg : g.toList = withoutSlashes s.toList ++ namesText names) (hnames : ArePlain names)
    (hne : names ≠ []) (hv : Url.parse g = .ok v) :
    ∃ a a', u.authority = some a ∧ v.authority = some a' ∧ a'.username = a.username ∧
      a'.password = a.password := by
  obtain ⟨rest, blank, k, hcut⟩ := isCut hu
  have hweb := (Url.isWeb_iff u).1 hweb
  obtain ⟨a, ha, hreads⟩ := readsAs_of_parse hcut.alone hweb hu
  obtain ⟨a', ha', hreads'⟩ := readsAs_of_parse (scheme?_resource hcut hg hnames hne) hweb hv
  refine ⟨a, a', ha, ha', ?_⟩
  by_cases hmark : '?' ∈ rest ∨ '#' ∈ rest
  · rw [hierarchyText_of_mark hmark (mark_notMem_slashes (by decide) k)] at hreads
    rw [hierarchyText_resource_of_mark hcut.isBlank hnames hmark] at hreads'
    exact ⟨hreads'.username.trans hreads.username.symm, hreads'.password.trans hreads.password.symm⟩
  · obtain ⟨hquery, hfragment⟩ := not_or.1 hmark
    obtain ⟨hhost, hreads⟩ := readsAs_without_slashes hquery hfragment hreads
    rw [hostPart_resource hcut.isBlank hnames hquery hfragment hhost] at hreads'
    split at hreads'
    · exact credentials_append_blank hcut.isBlank hreads hreads'
    · exact ⟨hreads'.username.trans hreads.username.symm,
        hreads'.password.trans hreads.password.symm⟩

/-- Nothing is proved by the user of a URL that names none. -/
theorem credentialsOf_of_no_user {s : String} (h : NamesNoUser s) {u : Url}
    (hu : Url.parse s = .ok u) : credentialsOf u = none := by
  unfold credentialsOf
  cases ha : u.authority with
  | none => rfl
  | some a =>
    obtain ⟨huser, hpassword⟩ := h u hu a ha
    simp [huser, hpassword]

/-! ## What a request carries -/

def bearer (key : String) : String :=
  "Bearer " ++ key

theorem isHeaderValue_bearer (key : String) :
    Http.isHeaderValue (bearer key) = Http.isHeaderValue key := by
  unfold bearer Http.isHeaderValue
  rw [String.toList_append, List.all_append]
  rfl

/-- The request that carries another token in the place of one. -/
def rekeyed (key key' : String) (r : Http.Request) : Http.Request :=
  if r.authorization = some (bearer key) then { r with authorization := some (bearer key') } else r

theorem rekeyed_of_ne {key key' : String} {r : Http.Request}
    (h : r.authorization ≠ some (bearer key)) : rekeyed key key' r = r :=
  if_neg h

/-- What a user proves is not what a token proves. -/
theorem basic_ne_bearer (s key : String) : "Basic " ++ s ≠ bearer key := by
  intro h
  have hchars := congrArg String.toList h
  rw [bearer, String.toList_append, String.toList_append] at hchars
  cases hchars

section

variable {method : Http.Method} {url : String} {body : Option String}

/-- The request to a URL is the same for every legal token, but for the token if no user proves more. -/
theorem makeRequest_eq (method : Http.Method) (body : Option String) {u : Url}
    (hu : Url.parse url = .ok u) :
    ∃ basic : Option String,
      (credentialsOf u = none → basic = none) ∧ (∀ text ∈ basic, ∃ s, text = "Basic " ++ s) ∧
        ∀ apiKey, IsLegalKey apiKey → makeRequest method url apiKey body =
          if Http.isTarget (askedUrl u) then
            .ok ⟨method, askedUrl u, basic.or (apiKey.map bearer), userAgent, body⟩
          else .error (.transport ("builder error for url (" ++ (askedUrl u).text ++ ")")) := by
  refine ⟨(credentialsOf u).map fun bytes => "Basic " ++ String.ofList (Text.base64 bytes),
    ?_, ?_, ?_⟩
  · intro hnone
    rw [hnone]
    rfl
  · intro text htext
    obtain ⟨bytes, -, rfl⟩ := Option.map_eq_some_iff.1 htext
    exact ⟨_, rfl⟩
  · intro apiKey hkey
    unfold IsLegalKey at hkey
    unfold makeRequest
    rw [hu]
    dsimp only
    rw [hkey]
    rfl

theorem isLegalKey_some {key : String} (h : Http.isHeaderValue key = true) :
    IsLegalKey (some key) := by
  have hbearer := isHeaderValue_bearer key
  rw [h] at hbearer
  exact hbearer

/-- With another legal token a request is made that carries that one. -/
theorem makeRequest_rekeyed {key key' : String} (hkey : Http.isHeaderValue key = true)
    (hkey' : Http.isHeaderValue key' = true) (method : Http.Method) (url : String)
    (body : Option String) : makeRequest method url (some key') body =
      (makeRequest method url (some key) body).map (rekeyed key key') := by
  cases hu : Url.parse url with
  | error fault =>
    unfold makeRequest
    rw [hu]
    rfl
  | ok u =>
    obtain ⟨basic, -, hbasic, hmade⟩ := makeRequest_eq method body hu
    rw [hmade _ (isLegalKey_some hkey), hmade _ (isLegalKey_some hkey')]
    split
    · refine congrArg Except.ok ?_
      cases basic with
      | none => exact (if_pos rfl).symm
      | some text =>
        obtain ⟨s, rfl⟩ := hbasic text rfl
        exact (rekeyed_of_ne fun h => basic_ne_bearer s key (Option.some.inj h)).symm
    · rfl

/-- What a request carries if its URL names no user. -/
theorem authorization_of_made {method : Http.Method} {body apiKey : Option String}
    (hkey : IsLegalKey apiKey) (huser : NamesNoUser url) {r : Http.Request}
    (h : makeRequest method url apiKey body = .ok r) : r.authorization = apiKey.map bearer := by
  cases hu : Url.parse url with
  | error fault =>
    unfold makeRequest at h
    rw [hu] at h
    cases h
  | ok u =>
    obtain ⟨basic, hnone, -, hmade⟩ := makeRequest_eq method body hu
    rw [hmade _ hkey, hnone (credentialsOf_of_no_user huser hu)] at h
    split at h
    · cases h
      rfl
    · cases h

/-- A request that is made without a token carries none. -/
theorem rekeyed_of_made {method : Http.Method} {body : Option String} {r : Http.Request}
    (h : makeRequest method url none body = .ok r) (key key' : String) : rekeyed key key' r = r := by
  cases hu : Url.parse url with
  | error fault =>
    unfold makeRequest at h
    rw [hu] at h
    cases h
  | ok u =>
    obtain ⟨basic, -, hbasic, hmade⟩ := makeRequest_eq method body hu
    rw [hmade none rfl] at h
    split at h
    · cases h
      refine rekeyed_of_ne ?_
      rw [Option.map_none, Option.or_none]
      rintro rfl
      obtain ⟨s, hs⟩ := hbasic _ rfl
      exact basic_ne_bearer s key hs.symm
    · cases h

end

/-! ## Queries -/

/-- Where a coordinator's URL names no user, no resource does. -/
theorem Query.namesNoUser {base : String} (huser : NamesNoUser base) {u : Url}
    (hu : Url.parse base = .ok u) (hweb : u.isWeb = true) {c : Connection}
    (hbase : c.baseUrl = withoutTrailingSlashes base) (q : Query) :
    NamesNoUser (c.urlOf q.path) := by
  intro v hv a' ha'
  obtain ⟨a, b, ha, hb, husername, hpassword⟩ :=
    credentials_resource hu hweb (q.urlOf_toList hbase) q.arePlain q.names_ne_nil hv
  obtain rfl := Option.some.inj (ha'.symm.trans hb)
  rw [husername, hpassword]
  exact huser u hu a ha

/-- Every query to a coordinator whose URL names no user carries the token. -/
theorem Query.authorization_of_made {base : String} {apiKey : Option String} {timeout : Span}
    {retry : Retry} {c : Connection} (hc : connect base apiKey timeout retry = .ok c)
    (huser : NamesNoUser base) (hkey : IsLegalKey apiKey) {q : Query} {r : Http.Request}
    (h : q.made c = .ok r) : r.authorization = apiKey.map bearer := by
  obtain ⟨rfl, u, hu, hweb⟩ := connect_ok hc
  exact Client.authorization_of_made hkey (q.namesNoUser huser hu hweb rfl) h

end Enrollment.Client
