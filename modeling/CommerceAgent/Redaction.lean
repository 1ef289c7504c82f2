import CommerceAgent.Patterns
import CommerceAgent.Mutations

/-! `_sanitize` of the trace module on texts, which every stored message goes through. -/
namespace CommerceAgent

open Patterns Texts

variable (π : Platform)

def isCjk (c : Char) : Bool := 0x4e00 ≤ c.toNat && c.toNat ≤ 0x9fa5

/-- What `[A-Z]` matches under `(?i)`. -/
def isLetter (c : Char) : Bool := let c := fold c; 'a' ≤ c && c ≤ 'z'

def PHONE : Pattern :=
  all [notBefore π.isDecimal,
    opt (all [opt (one (· == '+')), literal (· == ·) "86", opt (one (· ∈ ['-', ' ']))]),
    one (· == '1'), times (one π.isDecimal) 10 0, notAfter π.isDecimal]

/-- The first group of `_SECRET_ASSIGNMENT`. -/
def SECRET_NAME : Pattern :=
  anyOf [all [literal ignoreCase "api", opt (one (· ∈ ['_', '-'])), literal ignoreCase "key"],
    literal ignoreCase "authorization", literal ignoreCase "token", literal ignoreCase "password",
    literal ignoreCase "secret"]

def SECRET_ASSIGNMENT : Pattern :=
  all [SECRET_NAME, atLeast 0 (one isSpace), one (· ∈ [':', '=']), atLeast 0 (one isSpace),
    atLeast 1 (one fun c => c != ',' && !isSpace c)]

def EMAIL : Pattern :=
  all [boundary π.isWord,
    atLeast 1 (one fun c => isLetter c || c.isDigit || c ∈ ['.', '_', '%', '+', '-']),
    one (· == '@'), atLeast 1 (one fun c => isLetter c || c.isDigit || c ∈ ['.', '-']),
    one (· == '.'), atLeast 2 (one isLetter), boundary π.isWord]

def CARD : Pattern :=
  all [notBefore π.isDecimal,
    times (all [one π.isDecimal, opt (one (· ∈ [' ', '-']))]) 13 6, notAfter π.isDecimal]

def ADDRESS : Pattern :=
  all [notBefore isCjk, atLeast 2 (one isCjk), one (· ∈ ['省', '市', '区', '县']),
    times (one fun c => isCjk c || π.isDecimal c || isSpace c) 0 24,
    one (· ∈ ['路', '街', '巷', '弄', '号', '栋']), atLeast 0 (one isSpace),
    atLeast 0 (one π.isDecimal),
    times (one fun c => isCjk c || π.isDecimal c || isSpace c || c == '-') 0 12]

def MAX_TEXT : ℕ := 512

/-- What `\1` stands for: the name at the start of an assignment. -/
def secretName (matched : List Char) : List Char :=
  match SECRET_NAME ⟨none, matched⟩ with
  | ⟨_, rest⟩ :: _ => matched.take (matched.length - rest.length)
  | [] => []

def sanitize (value : String) : String :=
  let value := sub (PHONE π) (fun _ => "[PHONE_REDACTED]".toList) value
  let value := sub SECRET_ASSIGNMENT (fun m => secretName m ++ "=[REDACTED]".toList) value
  let value := sub (EMAIL π) (fun _ => "[EMAIL_REDACTED]".toList) value
  let value := sub (CARD π) (fun _ => "[PAYMENT_REDACTED]".toList) value
  let value := sub (ADDRESS π) (fun _ => "[ADDRESS_REDACTED]".toList) value
  take value MAX_TEXT

end CommerceAgent
