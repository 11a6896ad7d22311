import GatewaySdk.Upgrade.Manifest

/-! The two fetchers. The network is a function of the attempt and the URL, chosen by
an adversary; redirects are followed as the client's policy says. -/
namespace GatewaySdk.Upgrade

def maxManifestBytes : Nat := 1024 * 1024
def maxTarballBytes : Nat := 512 * 1024 * 1024
def maxAttempts : Nat := 3

/-- A response and its body as it arrives: a chunk, or a failure to read on. -/
structure Response where
  status : Nat
  statusText : String
  contentLength : Option Nat
  chunks : List (Option Bytes)
  deriving DecidableEq, Repr

/-- What one request is answered with. -/
inductive Answer where
  | networkError (text : String)
  | redirect (location : String) (parsed : ParsedUrl)
  | response (response : Response)
  deriving DecidableEq, Repr

/-- The client and what it meets: an answer for each attempt, request of it and URL. -/
structure Http where
  builds : Bool
  server : Nat → Nat → String → Answer

/-- The redirect policy: what is refused, from the number of URLs requested so far. -/
def redirectPolicy (previous : Nat) (url : ParsedUrl) : Except Error Unit :=
  if previous ≥ 5 then .error "too many redirects"
  else if url.scheme ≠ "https" then .error "redirect must stay on https"
  else match url.host with
    | none => .error "redirect to disallowed host"
    | some host => if redirectHostAllowed host = true then .ok () else .error "redirect to disallowed host"

/-- One attempt, redirects followed; `left` bounds what the policy allows. -/
def send (server : Nat → String → Answer) : (left previous : Nat) → (url : String) → Except Error Response
  | left,previous,url =>
    match server previous url with
    | .networkError text => .error text
    | .response response => .ok response
    | .redirect location parsed =>
      match redirectPolicy previous parsed,left with
      | .error error,_ => .error error
      | .ok (),0 => .error "too many redirects"
      | .ok (),left + 1 => send server left (previous + 1) location

def isSuccess (status : Nat) : Bool := 200 ≤ status && status < 300

def isRetryableStatus (status : Nat) : Bool :=
  (500 ≤ status && status < 600) || status == 429 || status == 408

def validUtf8 (bytes : Bytes) : Bool := ByteArray.validateUTF8 ⟨bytes.toArray⟩

def buildClient (http : Http) : Except Error Unit :=
  if http.builds = true then .ok () else .error "failed to build reqwest::Client for upgrade fetch"

/-- `Response::bytes`: the whole body, if it could be read. -/
def wholeBody (chunks : List (Option Bytes)) : Option Bytes :=
  chunks.foldr (fun chunk rest => match chunk,rest with
    | some bytes,some more => some (bytes ++ more)
    | _,_ => none) (some [])

def readText (url : String) (response : Response) : Except Error Bytes :=
  match wholeBody response.chunks with
  | none => .error ("failed to read body from " ++ url)
  | some bytes =>
    if bytes.length > maxManifestBytes then
      .error (url ++ " returned " ++ toString bytes.length ++ " bytes; cap is " ++ toString maxManifestBytes)
    else if validUtf8 bytes = true then .ok bytes
    else .error ("body from " ++ url ++ " is not valid UTF-8")

/-- The attempts of a fetch: `read` makes the result of a successful response. -/
def attempts (read : Response → Except Error Bytes) (exhausted url : String) (http : Http) :
    (left attempt : Nat) → Option Error → Except Error Bytes
  | 0,_,lastErr => .error (lastErr.getD exhausted)
  | left + 1,attempt,_ =>
    match send (http.server attempt) 4 1 url with
    | .ok response =>
      if isSuccess response.status = true then read response
      else
        let failed := "HTTP " ++ response.statusText ++ " from " ++ url
        if isRetryableStatus response.status = true then
          attempts read exhausted url http left (attempt + 1) (some failed)
        else .error failed
    | .error e =>
      attempts read exhausted url http left (attempt + 1) (some ("network error fetching " ++ url ++ ": " ++ e))

def fetchText (urls : UrlCrate) (http : Http) (url : String) : Except Error Bytes := do
  validateUrlHost urls url
  buildClient http
  attempts (readText url) "fetch_text exhausted retries" url http maxAttempts 0 none

def hexChar (n : Nat) : Char := if n < 10 then Char.ofNat (48 + n) else Char.ofNat (87 + n)

/-- Two lower-case hexadecimal digits for each byte. -/
def hex (bytes : Bytes) : String :=
  String.ofList (bytes.flatMap (fun b => [hexChar (b.toNat / 16),hexChar (b.toNat % 16)]))

def eqIgnoreAsciiCase (a b : String) : Bool := a.toList.map Char.toLower == b.toList.map Char.toLower

/-- The chunk loop: the bytes so far, bounded by the tarball cap. -/
def collect (url : String) : Bytes → List (Option Bytes) → Except Error Bytes
  | buf,[] => .ok buf
  | _,none::_ => .error ("failed to read chunk from " ++ url)
  | buf,some chunk::rest =>
    if buf.length + chunk.length > maxTarballBytes then
      .error (url ++ " body exceeds tarball cap " ++ toString maxTarballBytes ++ " mid-stream")
    else collect url (buf ++ chunk) rest

def checkContentLength (url : String) : Option Nat → Except Error Unit
  | none => .ok ()
  | some len =>
    if len > maxTarballBytes then
      .error (url ++ " content-length " ++ toString len ++ " exceeds tarball cap " ++ toString maxTarballBytes)
    else .ok ()

def readTarball (sha256 : Bytes → Bytes) (url expected : String) (response : Response) : Except Error Bytes := do
  checkContentLength url response.contentLength
  let buf ← collect url [] response.chunks
  let got := hex (sha256 buf)
  bailIf (eqIgnoreAsciiCase got expected = false) ("checksum mismatch for " ++ url ++ ": expected SHA-256 " ++
    expected ++ ", got " ++ got ++ " (size " ++ toString buf.length ++ " bytes)")
  return buf

def fetchWithSha256 (urls : UrlCrate) (sha256 : Bytes → Bytes) (http : Http) (url expected : String) :
    Except Error Bytes := do
  validateUrlHost urls url
  bailIf (hexDigest expected = false) ("expected SHA-256 " ++ debugStr expected ++ " is not 64 hex chars")
  buildClient http
  attempts (readTarball sha256 url expected) "fetch_with_sha256 exhausted retries" url http maxAttempts 0 none

theorem attempts_ok {read : Response → Except Error Bytes} {exhausted url : String} {http : Http}
    {left attempt : Nat} {lastErr : Option Error} {bytes : Bytes}
    (fetched : attempts read exhausted url http left attempt lastErr = .ok bytes) :
    ∃ response, read response = .ok bytes := by
  induction left generalizing attempt lastErr with
  | zero => cases fetched
  | succ left ih =>
    unfold attempts at fetched
    split at fetched
    next response _ =>
      split at fetched
      · exact ⟨response,fetched⟩
      · dsimp only at fetched
        split at fetched
        · exact ih fetched
        · cases fetched
    next => exact ih fetched

/-- What is handed over hashes to the digest that was asked for. -/
theorem fetchWithSha256_ok {urls : UrlCrate} {sha256 : Bytes → Bytes} {http : Http} {url expected : String}
    {bytes : Bytes} (fetched : fetchWithSha256 urls sha256 http url expected = .ok bytes) :
    eqIgnoreAsciiCase (hex (sha256 bytes)) expected = true := by
  obtain ⟨_,_,fetched⟩ := bind_ok.mp fetched
  obtain ⟨_,_,fetched⟩ := bind_ok.mp fetched
  obtain ⟨_,_,fetched⟩ := bind_ok.mp fetched
  obtain ⟨response,given⟩ := attempts_ok fetched
  obtain ⟨_,_,given⟩ := bind_ok.mp given
  obtain ⟨buf,_,given⟩ := bind_ok.mp given
  obtain ⟨_,checked,given⟩ := bind_ok.mp given
  cases given
  simpa using bailIf_ok.mp checked

end GatewaySdk.Upgrade
