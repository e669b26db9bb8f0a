import Enrollment.Http.Redirect
import Enrollment.Proofs.Address.Spelling
import Enrollment.Proofs.Client.Resources
import Enrollment.Proofs.Document.Kinds
import Enrollment.Proofs.Text.Utf8
/-!
# Speaking with a coordinator

What a request has to be to put a query to a coordinator, and what an answer has to be to stand for
what the coordinator says. A query that is put once, and answered so, ends with the value that was
said; of a refusal, only what the answer says is heard.

Results:
 1. `Query.made_asks`: the request of a query puts that query.
 2. `Query.asks_unique`: a request puts one query at most.
 3. `Query.settle_of_represents`: what stands for a value is read as that value.
 4. `Query.course_once`: a query that is not tried again sends one request.
-/

namespace Enrollment.Client

open Plan (Course course_bind course_done)

/-! ## What is asked -/

namespace Query

/-- What is sent along with a query reads as exactly the value of the query. -/
def Carries : Query → Option String → Prop
  | entryOf _, body => body = none
  | register r, body => ∃ s, body = some s ∧ Json.decode Registration.Request.codec s = .ok r
  | activate _ r, body => ∃ s, body = some s ∧ Json.decode Activation.Request.codec s = .ok r
  | deactivate _, body => body = some "\x7b\x7d"

/-- A request puts a query to the coordinator at a URL. -/
structure Asks (base : Url) (q : Query) (r : Http.Request) : Prop where
  method : r.method = q.method
  url : Aims base q.path.toList r.url
  carries : q.Carries r.body

theorem carries_document (q : Query) : q.Carries (q.document?.map Json.compact) := by
  cases q with
  | entryOf a => rfl
  | register r => exact ⟨_, rfl, Json.decode_compact (Registration.Request.faithful r)⟩
  | activate a r => exact ⟨_, rfl, Json.decode_compact (Activation.Request.faithful r)⟩
  | deactivate a =>
    show some (Json.compact (.record [])) = _
    rfl

/-- The request of a query puts that query, if resources can be put behind the URL, and there is room for
them. -/
theorem made_asks {base : String} {apiKey : Option String} {timeout : Span} {retry : Retry}
    {c : Connection} (h : connect base apiKey timeout retry = .ok c) {u : Url}
    (hu : Url.parse base = .ok u) (htakes : TakesResources base) (hroom : LeavesRoom u)
    (hkey : IsLegalKey apiKey) (q : Query) : ∃ r, q.made c = .ok r ∧ q.Asks u r := by
  obtain ⟨v, r, hv, haims, hmade⟩ := isOk_of_room h hkey hu htakes hroom q
  refine ⟨r, hmade, ?_⟩
  obtain ⟨hmethod, hbody, -⟩ := makeRequest_ok hmade
  obtain ⟨v', hv', hiff⟩ := aims_of_made hmade
  obtain rfl := Except.ok.inj (hv.symm.trans hv')
  refine ⟨hmethod, (hiff u q.path.toList).2 haims, ?_⟩
  rw [hbody]
  exact q.carries_document

theorem decoded_unique {α : Type} {codec : Document.Codec α} {body : Option String} {v v' : α}
    (h : ∃ s, body = some s ∧ Json.decode codec s = .ok v)
    (h' : ∃ s, body = some s ∧ Json.decode codec s = .ok v') : v = v' := by
  obtain ⟨s, rfl, hdecode⟩ := h
  obtain ⟨s', hs', hdecode'⟩ := h'
  obtain rfl := Option.some.inj hs'
  exact Except.ok.inj (hdecode.symm.trans hdecode')

/-- A request puts one query at most. -/
theorem asks_unique {base : Url} {q q' : Query} {r : Http.Request} (h : q.Asks base r)
    (h' : q'.Asks base r) : q = q' := by
  have hmethod : q.method = q'.method := h.method.symm.trans h'.method
  have hpath := List.append_cancel_left (h.url.path.symm.trans h'.url.path)
  have hnames : q.names = q'.names := by
    rw [path_eq, path_eq] at hpath
    rw [← Url.segmentsOf_namesText q.arePlain, hpath, Url.segmentsOf_namesText q'.arePlain]
  -- The number of names tells most queries apart, and the last name the other two.
  have hlast := congrArg List.getLast? hnames
  have hnode := congrArg (fun names => (List.dropLast names).getLast?) hnames
  cases q with
  | entryOf a =>
    cases q' with
    | entryOf b => rw [Address.text_injective (Option.some.inj hlast)]
    | _ => cases hmethod
  | register request =>
    cases q' with
    | register request' => rw [decoded_unique h.carries h'.carries]
    | entryOf b => cases hmethod
    | activate b request' => cases hnames
    | deactivate b => cases hnames
  | activate a request =>
    cases q' with
    | activate b request' =>
      rw [Address.text_injective (Option.some.inj hnode), decoded_unique h.carries h'.carries]
    | entryOf b => cases hmethod
    | register request' => cases hnames
    | deactivate b =>
      have hword : some "activate".toList = some "deactivate".toList := hlast
      exact absurd hword (by decide)
  | deactivate a =>
    cases q' with
    | deactivate b => rw [Address.text_injective (Option.some.inj hnode)]
    | entryOf b => cases hmethod
    | register request' => cases hnames
    | activate b request' =>
      have hword : some "deactivate".toList = some "activate".toList := hlast
      exact absurd hword (by decide)

end Query

/-! ## What is answered -/

/-- An answer stands for what a coordinator says to a query: a success with a body for a value, the
code 404 for an entry of a node that is not known, and any other code that ends an exchange for a refusal. -/
inductive Represents : (q : Query) → Except Failure q.Answer → Http.Response → Prop
  /-- The value is the body, as a document with any blanks between its parts. -/
  | success {q : Query} {v : q.Answer} {a : Http.Response} {spacing : Json.Spacing}
      (hspacing : spacing.Blank) (hsuccess : a.isSuccess = true) (hcarries : a.status ≠ 204)
      (hbody : a.body = some (Text.encodeUtf8 (Json.write spacing 0 (q.codec.encode v)))) :
      Represents q (.ok v) a
  | unknown {address : Address} {a : Http.Response} (hstatus : a.status = 404) :
      Represents (.entryOf address) (.ok (.unknown address)) a
  | refusal {q : Query} {f : Failure} {a : Http.Response} (hends : 200 ≤ a.status)
      (hsuccess : a.isSuccess = false) (hknown : ∀ address, q = .entryOf address → a.status ≠ 404) :
      Represents q (.error f) a

def Query.said (q : Query) : Except Failure q.Answer → Http.Response
  | .ok v => ⟨200, [], some (Text.encodeUtf8 (Json.write .compact 0 (q.codec.encode v)))⟩
  | .error _ => ⟨500, [], some []⟩

theorem represents_said (q : Query) (v : Except Failure q.Answer) : Represents q v (q.said v) := by
  cases v with
  | ok v => exact .success Json.blank_compact rfl (show 200 ≠ 204 by decide) rfl
  | error f =>
    refine .refusal (show 200 ≤ 500 by decide) rfl fun _ _ h => ?_
    cases h

/-- What is said arrives as it is, and sends nobody on. -/
theorem said_final (q : Query) (v : Except Failure q.Answer) (here : Url) :
    (q.said v).arriving = q.said v ∧ (q.said v).onward? here = none := by
  cases v <;> exact ⟨rfl, rfl⟩

theorem status_of_notFound {a : Http.Response} {resource : String}
    (h : failureOf a = .notFound resource) : a.status = 404 := by
  unfold failureOf at h
  dsimp only at h
  split at h <;> first | assumption | cases h

namespace Query

theorem faithful (q : Query) (v : q.Answer) : q.codec.Faithful v := by
  cases q with
  | entryOf a => exact Node.Entry.faithful v
  | register r => exact Registration.Receipt.faithful v
  | activate a r => exact Activation.Receipt.faithful v
  | deactivate a => exact Node.Entry.faithful v

theorem settle_ok (q : Query) (v : q.Answer) : q.settle (.ok v) = .ok v := by
  cases q <;> rfl

theorem settle_error {q : Query} {f : Failure}
    (h : ∀ address resource, q = .entryOf address → f ≠ .notFound resource) :
    q.settle (.error f) = .error f := by
  cases q with
  | entryOf a =>
    cases f with
    | notFound resource => exact absurd rfl (h a resource rfl)
    | _ => rfl
  | _ => rfl

/-- What stands for a value is read as that value, and what stands for a refusal as what the
answer means. -/
theorem settle_of_represents {q : Query} {v : Except Failure q.Answer} {a : Http.Response}
    (h : Represents q v a) (timeout : Span) (r : Http.Request) :
    q.settle (decodeBody q.codec (meaning timeout r (.answered a))) =
      v.mapError fun _ => failureOf a := by
  cases h with
  | @success _ v _ spacing hspacing hsuccess _ hbody =>
    have htext : a.text? = some (String.ofList (Json.write spacing 0 (q.codec.encode v))) := by
      rw [Http.Response.text?, hbody, Option.map_some,
        Text.decodeLenient_of_decodeUtf8? (Text.decodeUtf8?_encodeUtf8 _)]
    rw [meaning, if_pos hsuccess, htext]
    dsimp only [decodeBody]
    rw [Json.decode_write hspacing (q.faithful v)]
    exact q.settle_ok v
  | unknown hstatus =>
    have hsuccess : ¬a.isSuccess = true := by
      rw [Http.Response.isSuccess_iff, hstatus]
      omega
    have hfailure : failureOf a = .notFound (reasonOf (a.text?.getD "")) := by
      rw [failureOf, hstatus]
      rfl
    rw [meaning, if_neg hsuccess, hfailure]
    rfl
  | refusal _ hsuccess hknown =>
    rw [meaning, hsuccess]
    exact settle_error fun address resource hq hf => hknown address hq (status_of_notFound hf)

/-- A query that is not tried again sends one request, and ends with what the outcome means. -/
theorem course_once {c : Connection} (hretries : c.retry.maxRetries = 0) {q : Query}
    {r : Http.Request} (hmade : q.made c = .ok r) {t : List (Exchange Wire)}
    {v : Except Failure q.Answer} (h : Course (q.plan c) t v) :
    ∃ o, sent t = [r] ∧ outcomes t = [o] ∧
      v = q.settle (decodeBody q.codec (meaning c.timeout r o)) := by
  obtain ⟨e, t₁, t₂, w, rfl, hsent₂, houtcomes₂, hw, rfl⟩ := course_plan h
  have honce : c.exchange q.codec (q.made c) =
      (do return decodeBody q.codec (← sendOnce c.timeout (q.made c))) := by
    unfold Connection.exchange
    rw [hretries]
    rfl
  rw [honce, hmade] at hw
  obtain ⟨t₃, t₄, body, rfl, h₃, h₄⟩ := course_bind.1 hw
  obtain ⟨rfl, rfl⟩ := course_done.1 h₄
  obtain ⟨o, hsent, houtcomes, rfl⟩ := course_sendOnce h₃
  refine ⟨o, ?_, ?_, rfl⟩
  · rw [sent_append, hsent₂, sent_note, List.append_nil, List.append_nil, hsent]
  · rw [outcomes_append, houtcomes₂, outcomes_note, List.append_nil, List.append_nil, houtcomes]

end Query

end Enrollment.Client
