import GatewaySdk.Upgrade.Confined

/-! Which outcomes of an attempt are worth another, and which the two fetchers repeat: a body
that breaks off is among the first and not among the second. -/
namespace GatewaySdk.Upgrade
open GatewaySdk.Order

/-- What an attempt comes to, as the network has it. -/
inductive Outcome where
  | connectionError
  | status (code : Nat)
  | reset
  | complete (body : Bytes)
  deriving DecidableEq, Repr

def outcomeOf : Except Error Response → Outcome
  | .error _ => .connectionError
  | .ok response =>
    if isSuccess response.status = true then
      match wholeBody response.chunks with
      | some body => .complete body
      | none => .reset
    else .status response.status

def outcome (http : Http) (url : String) (k : Nat) : Outcome := outcomeOf (send (http.server k) 4 1 url)

/-- A connection error, a reset, a status that may pass. -/
def Outcome.transient : Outcome → Bool
  | .connectionError => true
  | .reset => true
  | .status code => (500 ≤ code && code < 600) || code == 408 || code == 429
  | .complete _ => false

/-- The policy: a further attempt after each transient outcome while fewer than three were made
and after no other, and success exactly with an acceptable body after transient outcomes only. -/
structure Policy (outcomes : Nat → Outcome) (acceptable : Nat → Bytes → Prop) (made : Nat)
    (result : Except Error Bytes) : Prop where
  begins : 0 < made
  three : made ≤ 3
  stops : ∀ k, k + 1 < made → (outcomes k).transient = true
  further : ∀ k, k + 1 = made → made < 3 → (outcomes k).transient = false
  ok : ∀ body, result = .ok body ↔
    ∃ k < 3, (∀ j < k, (outcomes j).transient = true) ∧ outcomes k = .complete body ∧ acceptable k body

/-- No body breaks off in the first two attempts with nothing but transient outcomes before it. -/
def WholeBodies (outcomes : Nat → Outcome) : Prop :=
  ∀ k < 2, (∀ j < k, (outcomes j).transient = true) → outcomes k ≠ .reset

section
variable {http : Http} {url : String}

theorem outcome_complete {k : Nat} {body : Bytes} : outcome http url k = .complete body ↔
    ∃ response, send (http.server k) 4 1 url = .ok response ∧ isSuccess response.status = true ∧
      wholeBody response.chunks = some body := by
  unfold outcome
  cases send (http.server k) 4 1 url with
  | error e => simp [outcomeOf]
  | ok response =>
    cases success : isSuccess response.status <;> cases whole : wholeBody response.chunks <;>
      simp [outcomeOf,success,whole]

/-- The loop repeats what is transient, a broken body apart. -/
theorem retried_outcome (k : Nat) :
    retried http url k = ((outcome http url k).transient && outcome http url k != .reset) := by
  unfold retried outcome
  cases send (http.server k) 4 1 url with
  | error e => rfl
  | ok response =>
    cases success : isSuccess response.status with
    | true => cases whole : wholeBody response.chunks <;> simp [outcomeOf,success,whole,Outcome.transient]
    | false =>
      have kind : outcomeOf (.ok response) = .status response.status := by simp [outcomeOf,success]
      dsimp only
      rw [kind,success,isRetryableStatus,Outcome.transient,Bool.or_assoc,Bool.or_comm (response.status == 429),
        ← Bool.or_assoc]
      simp

theorem retried_transient {k : Nat} (again : retried http url k = true) : (outcome http url k).transient = true := by
  rw [retried_outcome,Bool.and_eq_true] at again
  exact again.1

/-- Up to the second attempt, what is transient is repeated. -/
theorem WholeBodies.repeats (whole : WholeBodies (outcome http url)) {k : Nat} (early : k < 2)
    (front : ∀ j < k, (outcome http url j).transient = true) :
    retried http url k = (outcome http url k).transient := by
  rw [retried_outcome,bne_iff_ne.mpr (whole k early front),Bool.and_true]

/-- The attempts that are made are those of the policy exactly where no body breaks off. -/
theorem made_policy : made (retried http url) 3 0 = made (fun k => (outcome http url k).transient) 3 0 ↔
    WholeBodies (outcome http url) := by
  rw [made_eq_iff]
  simp only [Nat.zero_add]
  constructor
  · intro agree k
    induction k using Nat.strong_induction_on with
    | _ k ih =>
      intro early front broken
      have repeats : ∀ j < k, retried http url j = true := by
        intro j below
        have whole := ih j below (by omega) (fun i earlier => front i (by omega))
        rw [retried_outcome,front j below,bne_iff_ne.mpr whole,Bool.and_self]
      have same := agree k (by omega) repeats front
      rw [retried_outcome,broken] at same
      cases same
  · intro whole k early _ front
    exact whole.repeats (by omega) front

theorem WholeBodies.front (whole : WholeBodies (outcome http url)) {k : Nat} (within : k < 3) :
    (∀ j < k, retried http url j = true) ↔ ∀ j < k, (outcome http url j).transient = true := by
  refine ⟨fun all j below => retried_transient (all j below),fun all j below => ?_⟩
  rw [whole.repeats (by omega) (fun i earlier => all i (by omega))]
  exact all j below

/-- One fetch, whatever makes a body acceptable to its reader. -/
theorem attempts_policy {read : Response → Except Error Bytes} {exhausted : String} {acceptable : Nat → Bytes → Prop}
    (reads : ∀ k response, send (http.server k) 4 1 url = .ok response → ∀ body,
      read response = .ok body ↔ wholeBody response.chunks = some body ∧ acceptable k body) :
    Policy (outcome http url) acceptable (made (retried http url) 3 0) (attempts read exhausted url http 3 0 none) ↔
      WholeBodies (outcome http url) := by
  rw [← made_policy]
  constructor
  · intro policy
    have only := (@made_unique (fun k => (outcome http url k).transient) 3 0 _).mp
      ⟨policy.begins,policy.three,by simpa using policy.stops,by simpa using policy.further⟩
    exact only.2
  · intro same
    have whole := made_policy.mp same
    obtain ⟨begins,three,stops,further⟩ := made_unique.mpr ⟨by omega,same⟩
    refine ⟨begins,three,by simpa using stops,by simpa using further,fun body => ?_⟩
    rw [attempts_ok_iff]
    simp only [Nat.zero_add]
    refine exists_congr fun k => and_congr_right fun within => and_congr (whole.front within) ?_
    rw [outcome_complete]
    constructor
    · rintro ⟨response,sent,success,good⟩
      obtain ⟨whole,accepted⟩ := (reads k response sent body).mp good
      exact ⟨⟨response,sent,success,whole⟩,accepted⟩
    · rintro ⟨⟨response,sent,success,whole⟩,accepted⟩
      exact ⟨response,sent,success,(reads k response sent body).mpr ⟨whole,accepted⟩⟩

def GoodText (body : Bytes) : Prop := body.length ≤ maxManifestBytes ∧ validUtf8 body = true

theorem readText_ok_iff {response : Response} {body : Bytes} :
    readText url response = .ok body ↔ wholeBody response.chunks = some body ∧ GoodText body := by
  unfold readText GoodText
  cases wholeBody response.chunks with
  | none => simp
  | some whole =>
    dsimp only
    split_ifs with long valid
    · refine iff_of_false (by simp) ?_
      rintro ⟨same,small,_⟩
      obtain rfl := Option.some.inj same
      omega
    · simp only [Except.ok.injEq,Option.some.injEq]
      refine ⟨?_,fun both => both.1⟩
      rintro rfl
      exact ⟨rfl,by omega,valid⟩
    · refine iff_of_false (by simp) ?_
      rintro ⟨same,_,proper⟩
      obtain rfl := Option.some.inj same
      exact valid proper

theorem attempts_logged {checks : Except Error Unit} {log : List Attempt × Except Error Bytes} (passed : checks = .ok ()) :
    logged checks log = log := by
  rw [passed]
  rfl

theorem buildClient_ok (built : http.builds = true) : buildClient http = .ok () := if_pos built

theorem fetchTextLog_attempts {urls : UrlCrate} (valid : validateUrlHost urls url = .ok ()) (built : http.builds = true) :
    fetchTextLog urls http url =
      attemptsLog (readTextLog url) "fetch_text exhausted retries" url (startUrl urls url) http 3 0 none := by
  rw [fetchTextLog,attempts_logged valid,attempts_logged (buildClient_ok built)]
  rfl

theorem fetchWithSha256Log_attempts {urls : UrlCrate} {sha256 : Bytes → Bytes} {expected : String}
    (valid : validateUrlHost urls url = .ok ()) (digits : hexDigest expected = true) (built : http.builds = true) :
    fetchWithSha256Log urls sha256 http url expected =
      attemptsLog (readTarballLog sha256 url expected) "fetch_with_sha256 exhausted retries" url (startUrl urls url)
        http 3 0 none := by
  rw [fetchWithSha256Log,attempts_logged valid,attempts_logged (bailIf_ok.mpr (by simp [digits])),
    attempts_logged (buildClient_ok built)]
  rfl

theorem attemptsLog_length {read : Reader} {exhausted : String} {parsed : ParsedUrl} {left attempt : Nat}
    {lastErr : Option Error} : (attemptsLog read exhausted url parsed http left attempt lastErr).1.length =
      made (retried http url) left attempt := by
  rw [attemptsLog_made,List.length_map,List.length_range]

end

/-- Each fetcher keeps to the policy exactly where no body breaks off before the third attempt,
and over the same outcomes the two make the same number of attempts. -/
theorem transient_retried_iff {urls : UrlCrate} {sha256 : Bytes → Bytes} {http http' : Http} {url url' expected : String}
    (valid : validateUrlHost urls url = .ok ()) (valid' : validateUrlHost urls url' = .ok ())
    (digits : hexDigest expected = true) (built : http.builds = true) (built' : http'.builds = true)
    (same : ∀ k, outcome http url k = outcome http' url' k) :
    (Policy (outcome http url) (fun _ body => GoodText body) (fetchTextLog urls http url).1.length
        (fetchText urls http url) ↔ WholeBodies (outcome http url)) ∧
    (Policy (outcome http' url') (fun k body => ∃ response, send (http'.server k) 4 1 url' = .ok response ∧
        GoodTarball sha256 expected response body) (fetchWithSha256Log urls sha256 http' url' expected).1.length
        (fetchWithSha256 urls sha256 http' url' expected) ↔ WholeBodies (outcome http url)) ∧
    (fetchTextLog urls http url).1.length = (fetchWithSha256Log urls sha256 http' url' expected).1.length := by
  have outcomes : outcome http url = outcome http' url' := funext same
  rw [← fetchTextLog_fetchText,← fetchWithSha256Log_fetch,fetchTextLog_attempts valid built,
    fetchWithSha256Log_attempts valid' digits built',attemptsLog_attempts,attemptsLog_attempts,attemptsLog_length,
    attemptsLog_length]
  refine ⟨attempts_policy fun k response sent body => readText_ok_iff,?_,?_⟩
  · rw [outcomes]
    refine attempts_policy fun k response sent body => ?_
    change readTarball sha256 url' expected response = .ok body ↔ _
    rw [readTarball_ok_iff]
    constructor
    · exact fun good => ⟨good.whole,response,sent,good⟩
    · rintro ⟨_,other,again,good⟩
      rw [sent,Except.ok.injEq] at again
      exact again ▸ good
  · have repeats : retried http url = retried http' url' := by
      funext k
      rw [retried_outcome,retried_outcome,same k]
    rw [repeats]

namespace Sample

def githubUrls : UrlCrate := fun _ => .ok ⟨"https",some "github.com"⟩

def latest : String := "https://github.com/owner/gateway/releases/latest/download/manifest.json"

def answering (answers : List Answer) : Http where
  builds := true
  server k _ _ := answers.getD k (.networkError "refused")

def ok (chunks : List (Option Bytes)) : Answer := .response ⟨200,"200 OK",none,chunks⟩

/-- A name that does not resolve at first, then the text. -/
def unresolved : Http := answering [.networkError "dns",ok [some [104,105]]]

/-- A connection that breaks in the first body; the second would arrive. -/
def broken : Http := answering [ok [some [104],none],ok [some [104,105]]]

theorem latest_valid : validateUrlHost githubUrls latest = .ok () := by decide +kernel

def digestText : String := hex tarballDigest

theorem digestText_hex : hexDigest digestText = true := by decide +kernel

end Sample

theorem sample_transient_retried :
    (Policy (outcome Sample.unresolved Sample.latest) (fun _ body => GoodText body)
        (fetchTextLog Sample.githubUrls Sample.unresolved Sample.latest).1.length
        (fetchText Sample.githubUrls Sample.unresolved Sample.latest) ↔
      WholeBodies (outcome Sample.unresolved Sample.latest)) ∧
    (Policy (outcome Sample.unresolved Sample.latest) (fun k body => ∃ response,
          send (Sample.unresolved.server k) 4 1 Sample.latest = .ok response ∧
          GoodTarball Sample.sha256 Sample.digestText response body)
        (fetchWithSha256Log Sample.githubUrls Sample.sha256 Sample.unresolved Sample.latest Sample.digestText).1.length
        (fetchWithSha256 Sample.githubUrls Sample.sha256 Sample.unresolved Sample.latest Sample.digestText) ↔
      WholeBodies (outcome Sample.unresolved Sample.latest)) ∧
    (fetchTextLog Sample.githubUrls Sample.unresolved Sample.latest).1.length =
      (fetchWithSha256Log Sample.githubUrls Sample.sha256 Sample.unresolved Sample.latest Sample.digestText).1.length :=
  transient_retried_iff Sample.latest_valid Sample.latest_valid Sample.digestText_hex rfl rfl (fun _ => rfl)

/-- A body that breaks off ends the fetch at its first attempt. -/
theorem broken_body_not_retried : outcome Sample.broken Sample.latest 0 = .reset ∧
    outcome Sample.broken Sample.latest 1 = .complete [104,105] ∧
    (fetchTextLog Sample.githubUrls Sample.broken Sample.latest).1.length = 1 ∧
    ¬ Policy (outcome Sample.broken Sample.latest) (fun _ body => GoodText body)
      (fetchTextLog Sample.githubUrls Sample.broken Sample.latest).1.length
      (fetchText Sample.githubUrls Sample.broken Sample.latest) := by
  have once : (fetchTextLog Sample.githubUrls Sample.broken Sample.latest).1.length = 1 := by
    rw [fetchTextLog_attempts Sample.latest_valid rfl,attemptsLog_length]
    rfl
  refine ⟨rfl,rfl,once,fun policy => ?_⟩
  have final := policy.further 0 once.symm (by omega)
  cases final

end GatewaySdk.Upgrade
