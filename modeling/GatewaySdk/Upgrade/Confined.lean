import GatewaySdk.Upgrade.Fetch
import GatewaySdk.Upgrade.VerifySound

/-! Where a fetch goes and what it hands over: GitHub, and one whole body of the digest that
was asked for. -/
namespace GatewaySdk.Upgrade
open GatewaySdk.Order

theorem wholeBody_cons (chunk : Bytes) (rest : List (Option Bytes)) :
    wholeBody (some chunk::rest) = (wholeBody rest).map (fun more => chunk ++ more) := by
  simp only [wholeBody,List.foldr_cons]
  generalize List.foldr _ _ rest = more
  cases more <;> rfl

/-- The chunk loop ends well exactly where the whole body arrives and stays within the cap. -/
theorem collect_ok_iff {url : String} {buf bytes : Bytes} {chunks : List (Option Bytes)}
    (within : buf.length ≤ maxTarballBytes) : collect url buf chunks = .ok bytes ↔
      bytes.length ≤ maxTarballBytes ∧ ∃ rest, wholeBody chunks = some rest ∧ bytes = buf ++ rest := by
  induction chunks generalizing buf with
  | nil =>
    simp only [collect,Except.ok.injEq,wholeBody,List.foldr_nil,Option.some.injEq,exists_eq_left',List.append_nil]
    exact ⟨fun same => ⟨same ▸ within,same.symm⟩,fun both => both.2.symm⟩
  | cons chunk chunks ih =>
    cases chunk with
    | none => simp [collect,wholeBody]
    | some chunk =>
      rw [collect,wholeBody_cons]
      split_ifs with long
      · refine iff_of_false (by simp) ?_
        rintro ⟨small,rest,whole,rfl⟩
        obtain ⟨more,_,rfl⟩ := Option.map_eq_some_iff.mp whole
        simp only [List.length_append] at small
        omega
      · rw [ih (by simp only [List.length_append]; omega)]
        refine and_congr_right fun _ => ?_
        simp only [Option.map_eq_some_iff,List.append_assoc]
        constructor
        · rintro ⟨rest,whole,rfl⟩
          exact ⟨chunk ++ rest,⟨rest,whole,rfl⟩,rfl⟩
        · rintro ⟨_,⟨rest,whole,rfl⟩,rfl⟩
          exact ⟨rest,whole,rfl⟩

/-- A body that the tarball reader accepts. -/
structure GoodTarball (sha256 : Bytes → Bytes) (expected : String) (response : Response) (bytes : Bytes) : Prop where
  announced : ∀ length, response.contentLength = some length → length ≤ maxTarballBytes
  whole : wholeBody response.chunks = some bytes
  capped : bytes.length ≤ maxTarballBytes
  digest : eqIgnoreAsciiCase (hex (sha256 bytes)) expected = true

theorem checkContentLength_ok {url : String} {length : Option Nat} :
    checkContentLength url length = .ok () ↔ ∀ n, length = some n → n ≤ maxTarballBytes := by
  cases length with
  | none => simp [checkContentLength]
  | some n =>
    simp only [checkContentLength]
    split_ifs with long
    · simp only [Option.some.injEq,forall_eq',false_iff]
      omega
    · simp only [Option.some.injEq,forall_eq',true_iff]
      omega

theorem readTarball_ok_iff {sha256 : Bytes → Bytes} {url expected : String} {response : Response} {bytes : Bytes} :
    readTarball sha256 url expected response = .ok bytes ↔ GoodTarball sha256 expected response bytes := by
  constructor
  · intro read
    obtain ⟨_,announced,read⟩ := bind_ok.mp read
    obtain ⟨buf,collected,read⟩ := bind_ok.mp read
    obtain ⟨_,digest,read⟩ := bind_ok.mp read
    obtain ⟨capped,rest,whole,same⟩ := (collect_ok_iff (by simp [maxTarballBytes])).mp collected
    obtain rfl : buf = bytes := Except.ok.inj read
    obtain rfl : buf = rest := same
    exact ⟨checkContentLength_ok.mp announced,whole,capped,by simpa using bailIf_ok.mp digest⟩
  · intro good
    have collected : collect url [] response.chunks = .ok bytes :=
      (collect_ok_iff (by simp [maxTarballBytes])).mpr ⟨good.capped,bytes,good.whole,rfl⟩
    refine bind_ok.mpr ⟨(),checkContentLength_ok.mpr good.announced,bind_ok.mpr ⟨bytes,collected,?_⟩⟩
    exact bind_ok.mpr ⟨(),bailIf_ok.mpr (by simp [good.digest]),rfl⟩

theorem validateUrlHost_onGitHub {urls : UrlCrate} {url : String} (valid : validateUrlHost urls url = .ok ()) :
    OnGitHub (startUrl urls url) := by
  obtain ⟨parsed,parses,valid⟩ := bind_ok.mp valid
  obtain ⟨_,plain,valid⟩ := bind_ok.mp valid
  have start : startUrl urls url = parsed := by rw [startUrl,mapError_ok.mp parses]
  have scheme : parsed.scheme = "https" := Classical.not_not.mp (bailIf_ok.mp plain)
  rw [start]
  cases host : parsed.host with
  | none =>
    rw [host] at valid
    cases valid
  | some name =>
    rw [host] at valid
    obtain ⟨_,listed,_⟩ := bind_ok.mp valid
    have member : name ∈ allowedUrlHosts := Classical.not_not.mp (bailIf_ok.mp listed)
    refine ⟨scheme,name,host,?_⟩
    simp only [allowedUrlHosts,List.mem_cons,List.not_mem_nil,or_false] at member
    rcases member with rfl | rfl | rfl
    · exact .inl rfl
    · exact .inr (.inr ⟨"release-assets",rfl⟩)
    · exact .inr (.inr ⟨"objects",rfl⟩)

/-- Three attempts at most, each of five URLs at most, all of them on GitHub. -/
structure Confined (log : List Attempt) : Prop where
  attempts : log.length ≤ 3
  requests : ∀ a ∈ log, a.requested.length ≤ 5
  onGitHub : ∀ a ∈ log, ∀ u ∈ a.requested, OnGitHub u

theorem Confined.none : Confined [] := ⟨by simp,by simp,by simp⟩

theorem attemptsLog_confined {read : Reader} {exhausted url : String} {parsed : ParsedUrl} {http : Http}
    {lastErr : Option Error} (start : OnGitHub parsed) :
    Confined (attemptsLog read exhausted url parsed http maxAttempts 0 lastErr).1 := by
  rw [attemptsLog_made]
  refine ⟨?_,?_,?_⟩
  · rw [List.length_map,List.length_range]
    exact made_le
  · intro a member
    obtain ⟨k,_,rfl⟩ := List.mem_map.mp member
    have bound := @sendLog_length (http.server (0 + k)) 4 1 url parsed (by omega)
    change (sendLog (http.server (0 + k)) 4 1 url parsed).1.length ≤ 5
    omega
  · intro a member
    obtain ⟨k,_,rfl⟩ := List.mem_map.mp member
    exact sendLog_onGitHub start

theorem logged_confined {checks : Except Error Unit} {log : List Attempt × Except Error Bytes}
    (confined : checks = .ok () → Confined log.1) : Confined (logged checks log).1 := by
  cases checks with
  | error e => exact Confined.none
  | ok => exact confined rfl

/-- Every request of a fetch is made to GitHub, at most five an attempt and three attempts; and
what `fetch_with_sha256` returns is the whole body of one of them, within its cap and of the
digest that was asked for. -/
theorem fetch_confined (urls : UrlCrate) (sha256 : Bytes → Bytes) (http : Http) (url expected : String) :
    (fetchTextLog urls http url).2 = fetchText urls http url ∧ Confined (fetchTextLog urls http url).1 ∧
    (fetchWithSha256Log urls sha256 http url expected).2 = fetchWithSha256 urls sha256 http url expected ∧
    Confined (fetchWithSha256Log urls sha256 http url expected).1 ∧
    ∀ b, fetchWithSha256 urls sha256 http url expected = .ok b →
      ∃ a ∈ (fetchWithSha256Log urls sha256 http url expected).1, ∃ response, a.sent = .ok response ∧
        isSuccess response.status = true ∧ wholeBody response.chunks = some b ∧ b.length ≤ maxTarballBytes ∧
        eqIgnoreAsciiCase (hex (sha256 b)) expected = true := by
  refine ⟨fetchTextLog_fetchText urls http url,?_,fetchWithSha256Log_fetch urls sha256 http url expected,?_,?_⟩
  · exact logged_confined fun valid => logged_confined fun _ => attemptsLog_confined (validateUrlHost_onGitHub valid)
  · exact logged_confined fun valid => logged_confined fun _ => logged_confined fun _ =>
      attemptsLog_confined (validateUrlHost_onGitHub valid)
  · intro b fetched
    obtain ⟨_,valid,fetched⟩ := bind_ok.mp fetched
    obtain ⟨_,digits,fetched⟩ := bind_ok.mp fetched
    obtain ⟨_,built,fetched⟩ := bind_ok.mp fetched
    obtain ⟨k,within,front,response,sent,success,read⟩ := attempts_ok_iff.mp fetched
    have good := readTarball_ok_iff.mp read
    have reached : k < made (retried http url) maxAttempts 0 := lt_made_iff.mpr ⟨within,front⟩
    refine ⟨attemptAt (readTarballLog sha256 url expected) http url (startUrl urls url) (0 + k),?_,response,
      (attemptAt_sent (0 + k)).trans sent,success,good.whole,good.capped,good.digest⟩
    simp only [fetchWithSha256Log,valid,digits,built,logged,attemptsLog_made]
    exact List.mem_map.mpr ⟨k,List.mem_range.mpr reached,rfl⟩

end GatewaySdk.Upgrade
