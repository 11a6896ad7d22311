import GatewaySdk.Order.Retry
import GatewaySdk.Upgrade.Download

/-! The two fetchers with a record of what they do: the URLs that each attempt requests, what
its last request is answered with and the chunks it takes off the body. -/
namespace GatewaySdk.Upgrade
open GatewaySdk.Order

/-- `send` with the URLs that it requests. -/
def sendLog (server : Nat → String → Answer) :
    (left previous : Nat) → (url : String) → ParsedUrl → List ParsedUrl × Except Error Response
  | left,previous,url,parsed =>
    match server previous url with
    | .networkError text => ([parsed],.error text)
    | .response response => ([parsed],.ok response)
    | .redirect location next =>
      match redirectPolicy previous next,left with
      | .error error,_ => ([parsed],.error error)
      | .ok (),0 => ([parsed],.error "too many redirects")
      | .ok (),left + 1 =>
        let rest := sendLog server left (previous + 1) location next
        (parsed::rest.1,rest.2)

theorem sendLog_send (server : Nat → String → Answer) (left previous : Nat) (url : String) (parsed : ParsedUrl) :
    (sendLog server left previous url parsed).2 = send server left previous url := by
  induction left generalizing previous url parsed with
  | zero =>
    unfold sendLog send
    cases server previous url with
    | networkError text => rfl
    | response response => rfl
    | redirect location next =>
      dsimp only
      cases redirectPolicy previous next <;> rfl
  | succ left ih =>
    unfold sendLog send
    cases server previous url with
    | networkError text => rfl
    | response response => rfl
    | redirect location next =>
      dsimp only
      cases redirectPolicy previous next with
      | error error => rfl
      | ok => exact ih (previous + 1) location next

/-- A URL on GitHub: `https`, and one of the two domains or below the second. -/
def OnGitHub (url : ParsedUrl) : Prop :=
  url.scheme = "https" ∧ ∃ host, url.host = some host ∧
    (host = "github.com" ∨ host = "githubusercontent.com" ∨ ∃ below, host = below ++ ".githubusercontent.com")

theorem redirectHostAllowed_iff {host : String} : redirectHostAllowed host = true ↔
    host = "github.com" ∨ host = "githubusercontent.com" ∨ ∃ below, host = below ++ ".githubusercontent.com" := by
  simp only [redirectHostAllowed,endsWith,Bool.or_eq_true,beq_iff_eq,List.isSuffixOf_iff_suffix,or_assoc]
  refine or_congr_right (or_congr_right ⟨?_,?_⟩)
  · rintro ⟨below,same⟩
    refine ⟨String.ofList below,String.toList_injective ?_⟩
    rw [String.toList_append,@String.toList_ofList below,same]
  · rintro ⟨below,rfl⟩
    exact ⟨below.toList,(String.toList_append ..).symm⟩

theorem redirectPolicy_ok {previous : Nat} {url : ParsedUrl} (followed : redirectPolicy previous url = .ok ()) :
    previous < 5 ∧ OnGitHub url := by
  unfold redirectPolicy at followed
  split_ifs at followed with many plain
  split at followed
  · cases followed
  next host there =>
    split_ifs at followed with allowed
    exact ⟨by omega,Classical.not_not.mp plain,host,there,redirectHostAllowed_iff.mp allowed⟩

/-- What one step of `send` may do: end at the URL it requests, or follow a redirect that the
policy lets through. -/
theorem sendLog_step (server : Nat → String → Answer) (left previous : Nat) (url : String) (parsed : ParsedUrl) :
    (∃ ended, sendLog server left previous url parsed = ([parsed],ended)) ∨
      ∃ fewer location next, left = fewer + 1 ∧ redirectPolicy previous next = .ok () ∧
        sendLog server left previous url parsed =
          (parsed::(sendLog server fewer (previous + 1) location next).1,(sendLog server fewer (previous + 1) location next).2) := by
  cases left with
  | zero =>
    rw [sendLog]
    cases server previous url with
    | networkError text => exact .inl ⟨_,rfl⟩
    | response response => exact .inl ⟨_,rfl⟩
    | redirect location next =>
      dsimp only
      cases redirectPolicy previous next with
      | error error => exact .inl ⟨_,rfl⟩
      | ok => exact .inl ⟨_,rfl⟩
  | succ left =>
    rw [sendLog]
    cases server previous url with
    | networkError text => exact .inl ⟨_,rfl⟩
    | response response => exact .inl ⟨_,rfl⟩
    | redirect location next =>
      dsimp only
      cases followed : redirectPolicy previous next with
      | error error => exact .inl ⟨_,rfl⟩
      | ok => exact .inr ⟨left,location,next,rfl,followed,rfl⟩

/-- Where the first URL is on GitHub, every one of an attempt is. -/
theorem sendLog_onGitHub {server : Nat → String → Answer} {left previous : Nat} {url : String} {parsed : ParsedUrl}
    (start : OnGitHub parsed) : ∀ u ∈ (sendLog server left previous url parsed).1, OnGitHub u := by
  induction left using Nat.strongRecOn generalizing previous url parsed with
  | ind left ih =>
    obtain ⟨ended,last⟩ | ⟨fewer,location,next,rfl,followed,goes⟩ := sendLog_step server left previous url parsed
    · rw [last]
      exact List.forall_mem_singleton.mpr start
    · rw [goes]
      exact List.forall_mem_cons.mpr ⟨start,ih fewer (Nat.lt_succ_self fewer) (redirectPolicy_ok followed).2⟩

/-- The policy itself ends an attempt at its fifth URL, however many are left. -/
theorem sendLog_length {server : Nat → String → Answer} {left previous : Nat} {url : String} {parsed : ParsedUrl}
    (reached : previous ≤ 5) : (sendLog server left previous url parsed).1.length + previous ≤ 6 := by
  induction left using Nat.strongRecOn generalizing previous url parsed with
  | ind left ih =>
    obtain ⟨ended,last⟩ | ⟨fewer,location,next,rfl,followed,goes⟩ := sendLog_step server left previous url parsed
    · rw [last,List.length_singleton]
      omega
    · have below := (redirectPolicy_ok followed).1
      have rest := @ih fewer (Nat.lt_succ_self fewer) (previous + 1) location next (by omega)
      rw [goes,List.length_cons]
      omega

/-- Four redirects are all that the policy leaves of any number. -/
theorem sendLog_enough {server : Nat → String → Answer} {left previous : Nat} (enough : 5 ≤ left + previous)
    (more : Nat) (url : String) (parsed : ParsedUrl) :
    sendLog server (left + more) previous url parsed = sendLog server left previous url parsed := by
  induction left generalizing previous url parsed with
  | zero =>
    have refused (next : ParsedUrl) : redirectPolicy previous next = .error "too many redirects" := if_pos (by omega)
    unfold sendLog
    cases server previous url with
    | networkError text => rfl
    | response response => rfl
    | redirect location next => simp only [refused]
  | succ left ih =>
    rw [Nat.add_right_comm]
    unfold sendLog
    cases server previous url with
    | networkError text => rfl
    | response response => rfl
    | redirect location next =>
      dsimp only
      cases redirectPolicy previous next with
      | error error => rfl
      | ok => simp only [ih (show 5 ≤ left + (previous + 1) by omega)]

/-- One attempt: the URLs it requests, the answer to the last, the chunks it takes. -/
structure Attempt where
  requested : List ParsedUrl
  sent : Except Error Response
  taken : List Bytes

/-- A reader that tells the chunks it takes off the body beside its result. -/
abbrev Reader := Response → List Bytes × Except Error Bytes

def attemptAt (read : Reader) (http : Http) (url : String) (parsed : ParsedUrl) (k : Nat) : Attempt :=
  let sent := sendLog (http.server k) 4 1 url parsed
  ⟨sent.1,sent.2,match sent.2 with
    | .ok response => if isSuccess response.status = true then (read response).1 else []
    | .error _ => []⟩

/-- `attempts` with its record. -/
def attemptsLog (read : Reader) (exhausted url : String) (parsed : ParsedUrl) (http : Http) :
    (left attempt : Nat) → Option Error → List Attempt × Except Error Bytes
  | 0,_,lastErr => ([],.error (lastErr.getD exhausted))
  | left + 1,attempt,_ =>
    let this := attemptAt read http url parsed attempt
    match this.sent with
    | .ok response =>
      if isSuccess response.status = true then ([this],(read response).2)
      else
        let failed := "HTTP " ++ response.statusText ++ " from " ++ url
        if isRetryableStatus response.status = true then
          let rest := attemptsLog read exhausted url parsed http left (attempt + 1) (some failed)
          (this::rest.1,rest.2)
        else ([this],.error failed)
    | .error e =>
      let rest := attemptsLog read exhausted url parsed http left (attempt + 1)
        (some ("network error fetching " ++ url ++ ": " ++ e))
      (this::rest.1,rest.2)

section Attempts
variable {read : Reader} {exhausted url : String} {parsed : ParsedUrl} {http : Http} {left attempt : Nat}
  {lastErr : Option Error}

theorem attemptAt_sent (k : Nat) : (attemptAt read http url parsed k).sent = send (http.server k) 4 1 url :=
  sendLog_send (http.server k) 4 1 url parsed

theorem attemptsLog_attempts : (attemptsLog read exhausted url parsed http left attempt lastErr).2 =
    attempts (fun response => (read response).2) exhausted url http left attempt lastErr := by
  induction left generalizing attempt lastErr with
  | zero => rfl
  | succ left ih =>
    unfold attemptsLog attempts
    dsimp only
    rw [attemptAt_sent]
    cases send (http.server attempt) 4 1 url with
    | error e => exact ih
    | ok response =>
      dsimp only
      split_ifs
      · rfl
      · exact ih
      · rfl

/-- What the loop goes on after: no response, or a status that is worth another try. -/
def retried (http : Http) (url : String) (k : Nat) : Bool :=
  match send (http.server k) 4 1 url with
  | .error _ => true
  | .ok response => !isSuccess response.status && isRetryableStatus response.status

theorem retried_error {k : Nat} {e : Error} (sent : send (http.server k) 4 1 url = .error e) :
    retried http url k = true := by
  rw [retried,sent]

theorem retried_ok {k : Nat} {response : Response} (sent : send (http.server k) 4 1 url = .ok response) :
    retried http url k = (!isSuccess response.status && isRetryableStatus response.status) := by
  rw [retried,sent]

theorem attempts_shift (n : Nat) : (List.range (n + 1)).map (fun k => attemptAt read http url parsed (attempt + k)) =
    attemptAt read http url parsed attempt::
      (List.range n).map (fun k => attemptAt read http url parsed (attempt + 1 + k)) := by
  rw [List.range_succ_eq_map,List.map_cons,List.map_map]
  congr 2
  funext k
  rw [Function.comp_apply,Nat.succ_eq_add_one,Nat.add_assoc,Nat.add_comm 1 k]

/-- The record is of the attempts that are made, one after another. -/
theorem attemptsLog_made : (attemptsLog read exhausted url parsed http left attempt lastErr).1 =
    (List.range (made (retried http url) left attempt)).map (fun k => attemptAt read http url parsed (attempt + k)) := by
  induction left generalizing attempt lastErr with
  | zero => rfl
  | succ left ih =>
    have one := @attempts_shift read url parsed http attempt 0
    cases sent : send (http.server attempt) 4 1 url with
    | error e =>
      simp only [attemptsLog,attemptAt_sent,sent,made,retried_error sent,if_true,ih]
      exact (attempts_shift _).symm
    | ok response =>
      cases success : isSuccess response.status with
      | true =>
        simp only [attemptsLog,attemptAt_sent,sent,made,retried_ok sent,success,Bool.not_true,Bool.false_and,if_true]
        exact one.symm
      | false =>
        cases transient : isRetryableStatus response.status with
        | true =>
          simp only [attemptsLog,attemptAt_sent,sent,made,retried_ok sent,success,transient,Bool.not_false,Bool.and_self,
            if_true,Bool.false_eq_true,if_false,ih]
          exact (attempts_shift _).symm
        | false =>
          simp only [attemptsLog,attemptAt_sent,sent,made,retried_ok sent,success,transient,Bool.and_false,
            Bool.false_eq_true,if_false]
          exact one.symm

/-- The attempts succeed exactly where one of those left does and the loop comes to it. -/
theorem attempts_ok_iff {read : Response → Except Error Bytes} {bytes : Bytes} :
    attempts read exhausted url http left attempt lastErr = .ok bytes ↔
      ∃ k < left, (∀ j < k, retried http url (attempt + j) = true) ∧
        ∃ response, send (http.server (attempt + k)) 4 1 url = .ok response ∧
          isSuccess response.status = true ∧ read response = .ok bytes := by
  induction left generalizing attempt lastErr with
  | zero => simp [attempts]
  | succ left ih =>
    rw [@reached_cons _ _ _ fun n => ∃ response, send (http.server n) 4 1 url = .ok response ∧
      isSuccess response.status = true ∧ read response = .ok bytes]
    unfold attempts
    cases sent : send (http.server attempt) 4 1 url with
    | error e =>
      simp only [retried_error sent,true_and]
      rw [ih]
      simp
    | ok response =>
      dsimp only
      cases success : isSuccess response.status with
      | true =>
        simp [retried_ok sent,success]
      | false =>
        cases transient : isRetryableStatus response.status with
        | true =>
          simp only [retried_ok sent,success,transient,Bool.not_false,Bool.and_self,true_and,Bool.false_eq_true,if_true,
            if_false]
          rw [ih]
          simp [success]
        | false =>
          simp [retried_ok sent,success,transient]

end Attempts
/-- The chunks of a body that arrive: all of them, or those before it fails. -/
def arrived : List (Option Bytes) → List Bytes
  | some chunk::rest => chunk::arrived rest
  | _ => []

/-- `Response::bytes` takes all that arrives before it returns. -/
def readTextLog (url : String) : Reader := fun response => (arrived response.chunks,readText url response)

/-- The chunk loop with the chunks that it takes. -/
def collectLog (url : String) : Bytes → List (Option Bytes) → List Bytes × Except Error Bytes
  | buf,[] => ([],.ok buf)
  | _,none::_ => ([],.error ("failed to read chunk from " ++ url))
  | buf,some chunk::rest =>
    if buf.length + chunk.length > maxTarballBytes then
      ([chunk],.error (url ++ " body exceeds tarball cap " ++ toString maxTarballBytes ++ " mid-stream"))
    else
      let more := collectLog url (buf ++ chunk) rest
      (chunk::more.1,more.2)

theorem collectLog_collect (url : String) (buf : Bytes) (chunks : List (Option Bytes)) :
    (collectLog url buf chunks).2 = collect url buf chunks := by
  induction chunks generalizing buf with
  | nil => rfl
  | cons chunk rest ih =>
    cases chunk with
    | none => rfl
    | some chunk =>
      unfold collectLog collect
      split_ifs
      · rfl
      · exact ih (buf ++ chunk)

def readTarballLog (sha256 : Bytes → Bytes) (url expected : String) : Reader := fun response =>
  (match checkContentLength url response.contentLength with
    | .ok () => (collectLog url [] response.chunks).1
    | .error _ => [],
  readTarball sha256 url expected response)

/-- What comes before the attempts, and their record if it lets them be. -/
def logged (checks : Except Error Unit) (log : List Attempt × Except Error Bytes) : List Attempt × Except Error Bytes :=
  match checks with
  | .error e => ([],.error e)
  | .ok () => log

def startUrl (urls : UrlCrate) (url : String) : ParsedUrl :=
  match urls url with
  | .ok parsed => parsed
  | .error _ => ⟨"",none⟩

def fetchTextLog (urls : UrlCrate) (http : Http) (url : String) : List Attempt × Except Error Bytes :=
  logged (validateUrlHost urls url) <| logged (buildClient http) <|
    attemptsLog (readTextLog url) "fetch_text exhausted retries" url (startUrl urls url) http maxAttempts 0 none

def fetchWithSha256Log (urls : UrlCrate) (sha256 : Bytes → Bytes) (http : Http) (url expected : String) :
    List Attempt × Except Error Bytes :=
  logged (validateUrlHost urls url) <|
    logged (bailIf (hexDigest expected = false) ("expected SHA-256 " ++ debugStr expected ++ " is not 64 hex chars")) <|
      logged (buildClient http) <|
        attemptsLog (readTarballLog sha256 url expected) "fetch_with_sha256 exhausted retries" url (startUrl urls url) http
          maxAttempts 0 none

theorem logged_result {checks : Except Error Unit} {log : List Attempt × Except Error Bytes} :
    (logged checks log).2 = checks.bind (fun _ => log.2) := by
  cases checks <;> rfl

theorem fetchTextLog_fetchText (urls : UrlCrate) (http : Http) (url : String) :
    (fetchTextLog urls http url).2 = fetchText urls http url := by
  rw [fetchTextLog,logged_result,logged_result,attemptsLog_attempts]
  rfl

theorem fetchWithSha256Log_fetch (urls : UrlCrate) (sha256 : Bytes → Bytes) (http : Http) (url expected : String) :
    (fetchWithSha256Log urls sha256 http url expected).2 = fetchWithSha256 urls sha256 http url expected := by
  rw [fetchWithSha256Log,logged_result,logged_result,logged_result,attemptsLog_attempts]
  rfl

end GatewaySdk.Upgrade
