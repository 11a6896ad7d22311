import GatewaySdk.Upgrade.Retries

/-! How much of a body the two fetchers take before they refuse it. -/
namespace GatewaySdk.Upgrade
open GatewaySdk.Order

/-- What is taken is within the cap until its last chunk. -/
def Capped (cap : Nat) (taken : List Bytes) : Prop := taken.dropLast.flatten.length ≤ cap

theorem Capped.total {cap : Nat} {taken : List Bytes} (capped : Capped cap taken) :
    taken.flatten.length ≤ cap + (taken.getLast?.getD []).length := by
  unfold Capped at capped
  cases empty : taken.getLast? with
  | none =>
    rw [List.getLast?_eq_none_iff.mp empty]
    simp
  | some last =>
    obtain ⟨front,rfl⟩ := List.getLast?_eq_some_iff.mp empty
    rw [List.dropLast_concat] at capped
    simp only [List.flatten_append,List.flatten_singleton,List.length_append,Option.getD_some]
    omega

theorem doubled_not_capped {cap : Nat} {chunk : Bytes} (long : cap < chunk.length) :
    cap + chunk.length < [chunk,chunk].flatten.length ∧ ¬ Capped cap [chunk,chunk] := by
  have once : [chunk].flatten = chunk := List.flatten_singleton
  unfold Capped
  rw [show [chunk,chunk].dropLast = [chunk] from rfl,once]
  simp only [List.flatten_cons,List.flatten_nil,List.length_append,List.length_nil]
  omega

/-- The chunk loop looks before it takes another. -/
theorem collectLog_capped {url : String} {buf : Bytes} {chunks : List (Option Bytes)}
    (within : buf.length ≤ maxTarballBytes) :
    buf.length + (collectLog url buf chunks).1.dropLast.flatten.length ≤ maxTarballBytes := by
  induction chunks generalizing buf with
  | nil => simpa [collectLog] using within
  | cons chunk chunks ih =>
    cases chunk with
    | none => simpa [collectLog] using within
    | some chunk =>
      unfold collectLog
      split_ifs with long
      · simpa using within
      · have rest := @ih (buf ++ chunk) (by simp only [List.length_append]; omega)
        dsimp only
        cases taken : (collectLog url (buf ++ chunk) chunks).1 with
        | nil => simpa using within
        | cons next more =>
          rw [taken] at rest
          simp only [List.dropLast_cons_cons,List.flatten_cons,List.length_append] at rest ⊢
          omega

theorem readTarballLog_capped {sha256 : Bytes → Bytes} {url expected : String} (response : Response) :
    Capped maxTarballBytes (readTarballLog sha256 url expected response).1 := by
  unfold readTarballLog Capped
  cases checkContentLength url response.contentLength with
  | error e => simp
  | ok =>
    have bound := @collectLog_capped url [] response.chunks (by simp)
    simpa using bound

section
variable {read : Reader} {exhausted url : String} {parsed : ParsedUrl} {http : Http}

/-- The attempts that take anything off a body: the one with a response to be read. -/
theorem attemptsLog_taken {cap : Nat} : (∀ a ∈ (attemptsLog read exhausted url parsed http 3 0 none).1, Capped cap a.taken) ↔
    ∀ k < 3, (∀ j < k, retried http url j = true) → ∀ response, send (http.server k) 4 1 url = .ok response →
      isSuccess response.status = true → Capped cap (read response).1 := by
  have taken (k : Nat) : Capped cap (attemptAt read http url parsed k).taken ↔ ∀ response,
      send (http.server k) 4 1 url = .ok response → isSuccess response.status = true → Capped cap (read response).1 := by
    simp only [attemptAt]
    rw [sendLog_send]
    cases send (http.server k) 4 1 url with
    | error e => simp [Capped]
    | ok response =>
      simp only [Except.ok.injEq,forall_eq']
      split_ifs with success
      · exact ⟨fun capped _ => capped,fun capped => capped success⟩
      · exact iff_of_true (by simp [Capped]) (fun yes => absurd yes success)
  rw [attemptsLog_made]
  simp only [List.forall_mem_map,List.mem_range,lt_made_iff,taken,Nat.zero_add]
  exact ⟨fun all k within front => all k ⟨within,front⟩,fun all k both => all k both.1 both.2⟩

theorem attempts_read {read : Response → Except Error Bytes} {k : Nat} {response : Response}
    (front : ∀ j < k, retried http url j = true) (sent : send (http.server k) 4 1 url = .ok response)
    (success : isSuccess response.status = true) {body : Bytes}
    (fetched : attempts read exhausted url http 3 0 none = .ok body) : read response = .ok body := by
  obtain ⟨other,_,others,response',sent',success',good⟩ := attempts_ok_iff.mp fetched
  rw [Nat.zero_add] at sent'
  have final {k : Nat} {response : Response} (sent : send (http.server k) 4 1 url = .ok response)
      (success : isSuccess response.status = true) : retried http url k = false := by
    rw [retried_ok sent,success]
    rfl
  rcases Nat.lt_trichotomy k other with before | rfl | after
  · have again := others k before
    rw [Nat.zero_add,final sent success] at again
    cases again
  · rw [sent,Except.ok.injEq] at sent'
    rw [sent']
    exact good
  · have again := front other after
    rw [final sent' success'] at again
    cases again

/-- A response that the fetch comes to read. -/
def Reads (http : Http) (url : String) (response : Response) : Prop :=
  ∃ k < 3, (∀ j < k, retried http url j = true) ∧ send (http.server k) 4 1 url = .ok response ∧
    isSuccess response.status = true

/-- A body longer than the cap ends in an error. -/
def Refuses (cap : Nat) (http : Http) (url : String) (result : Except Error Bytes) : Prop :=
  ∀ response body, Reads http url response → wholeBody response.chunks = some body → cap < body.length →
    ∃ e, result = .error e

theorem attempts_refuse {read : Response → Except Error Bytes} {cap : Nat}
    (small : ∀ response body, read response = .ok body → wholeBody response.chunks = some body ∧ body.length ≤ cap) :
    Refuses cap http url (attempts read exhausted url http 3 0 none) := by
  rintro response body ⟨k,_,front,sent,success⟩ whole long
  cases result : attempts read exhausted url http 3 0 none with
  | error e => exact ⟨e,rfl⟩
  | ok other =>
    obtain ⟨same,fits⟩ := small response other (attempts_read front sent success result)
    rw [whole,Option.some.injEq] at same
    subst same
    omega

end

/-- `fetch_with_sha256` never takes more than its cap and one chunk. `fetch_text` takes no more
exactly where the body that it reads has no more before its last chunk. A body longer than its
cap neither accepts. -/
theorem downloads_capped_iff {urls : UrlCrate} {sha256 : Bytes → Bytes} {http : Http} {url expected : String}
    (valid : validateUrlHost urls url = .ok ()) (digits : hexDigest expected = true) (built : http.builds = true) :
    ((∀ a ∈ (fetchTextLog urls http url).1, Capped maxManifestBytes a.taken) ∧
        Refuses maxManifestBytes http url (fetchText urls http url) ↔
      ∀ response, Reads http url response → Capped maxManifestBytes (arrived response.chunks)) ∧
    (∀ a ∈ (fetchWithSha256Log urls sha256 http url expected).1, Capped maxTarballBytes a.taken) ∧
    Refuses maxTarballBytes http url (fetchWithSha256 urls sha256 http url expected) := by
  rw [← fetchTextLog_fetchText,← fetchWithSha256Log_fetch,fetchTextLog_attempts valid built,
    fetchWithSha256Log_attempts valid digits built,attemptsLog_attempts,attemptsLog_attempts,attemptsLog_taken,
    attemptsLog_taken]
  refine ⟨?_,fun k within front response sent success => readTarballLog_capped response,?_⟩
  · constructor
    · rintro ⟨capped,_⟩ response ⟨k,within,front,sent,success⟩
      exact capped k within front response sent success
    · intro brief
      refine ⟨fun k within front response sent success => brief response ⟨k,within,front,sent,success⟩,?_⟩
      refine attempts_refuse fun response body good => ?_
      obtain ⟨whole,small,_⟩ := readText_ok_iff.mp good
      exact ⟨whole,small⟩
  · refine attempts_refuse fun response body good => ?_
    have accepted := readTarball_ok_iff.mp good
    exact ⟨accepted.whole,accepted.capped⟩

namespace Sample

def mebibyte : Bytes := List.replicate (maxManifestBytes + 1) 0

theorem mebibyte_over : maxManifestBytes < mebibyte.length := by
  unfold mebibyte
  rw [List.length_replicate]
  exact Nat.lt_succ_self _

def flooding : Http := answering [ok [some mebibyte,some mebibyte]]

end Sample

theorem sample_downloads_capped :
    ((∀ a ∈ (fetchTextLog Sample.githubUrls Sample.unresolved Sample.latest).1, Capped maxManifestBytes a.taken) ∧
        Refuses maxManifestBytes Sample.unresolved Sample.latest
          (fetchText Sample.githubUrls Sample.unresolved Sample.latest) ↔
      ∀ response, Reads Sample.unresolved Sample.latest response →
        Capped maxManifestBytes (arrived response.chunks)) ∧
    (∀ a ∈ (fetchWithSha256Log Sample.githubUrls Sample.sha256 Sample.unresolved Sample.latest Sample.digestText).1,
      Capped maxTarballBytes a.taken) ∧
    Refuses maxTarballBytes Sample.unresolved Sample.latest
      (fetchWithSha256 Sample.githubUrls Sample.sha256 Sample.unresolved Sample.latest Sample.digestText) :=
  downloads_capped_iff Sample.latest_valid Sample.digestText_hex rfl

/-- Both chunks are taken before the cap is looked at: more than it and any one of them. -/
theorem flooded_text_taken : ∃ a ∈ (fetchTextLog Sample.githubUrls Sample.flooding Sample.latest).1,
    a.taken = [Sample.mebibyte,Sample.mebibyte] ∧ maxManifestBytes + Sample.mebibyte.length < a.taken.flatten.length ∧
      ¬ Capped maxManifestBytes a.taken := by
  have once : made (retried Sample.flooding Sample.latest) 3 0 = 1 := rfl
  refine ⟨attemptAt (readTextLog Sample.latest) Sample.flooding Sample.latest
    (startUrl Sample.githubUrls Sample.latest) (0 + 0),?_,rfl,doubled_not_capped Sample.mebibyte_over⟩
  rw [fetchTextLog_attempts Sample.latest_valid rfl,attemptsLog_made,once]
  exact List.mem_map.mpr ⟨0,List.mem_range.mpr Nat.one_pos,rfl⟩

end GatewaySdk.Upgrade
