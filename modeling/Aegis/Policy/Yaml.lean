import Aegis.Library.Execution
import Aegis.Library.Path
import Aegis.Library.Regex
import Aegis.Library.Words
import Aegis.Policy.Engine

/-! The policy file loader.

A file is a list of characters, each of them one byte. The loader does not parse it: it
searches for each of its keys in the whole text.
-/

set_option autoImplicit false

namespace Aegis.Policy
open Library

/-! The character classes. -/

def isSpace (c : Char) : Bool := [' ', '\t', '\n', '\x0b', '\x0c', '\r'].contains c

def isWord (c : Char) : Bool := c.isAlphanum || c = '_'

def isNameChar (c : Char) : Bool := isWord c || c = '-'

/-! The expressions. -/

/-- A key and a value, with a colon between them. -/
def keyed (key : String) (value : Regex) : Regex :=
  .seq (.word key.toList) (.seq (.many isSpace) (.seq (.one (· = ':')) (.seq (.many isSpace) value)))

def quoted (p : Char → Bool) : Regex :=
  .seq (.optional (.one (· = '"'))) (.seq (.group (.plus p)) (.optional (.one (· = '"'))))

def flagValue : Regex := .group (.alt (.word "true".toList) (.word "false".toList))

def listValue : Regex := .seq (.one (· = '[')) (.seq (.group (.plus (· ≠ ']'))) (.one (· = ']')))

def nameRegex : Regex := keyed "policy_name" (quoted isNameChar)

def blockNetRegex : Regex := keyed "block_all_network_egress" flagValue

def blockMetaRegex : Regex := keyed "block_cloud_metadata_ips" flagValue

def timeoutRegex : Regex := keyed "max_execution_time_sec" (.group (.plus Char.isDigit))

def allowedRegex : Regex := keyed "allowed_sys_calls" listValue

def blockedRegex : Regex := keyed "blocked_sys_calls" listValue

def tokenRegex : Regex := quoted isWord

/-- The first match's `match[1].str()`. -/
def extract (r : Regex) (content : List Char) : Option (List Char) :=
  (r.search content).map fun m => m.group.getD []

/-- `std::stoul` with a 64-bit `unsigned long`; it throws on a greater number. -/
def stoul (digits : List Char) : Option Nat :=
  let value := Nat.ofDigitChars 10 digits 0
  if value < 2 ^ 64 then some value else none

def flagOf (r : Regex) (content : List Char) (default : Bool) : Bool :=
  match extract r content with
  | some value => value = "true".toList
  | none => default

def tokens (list : List Char) : List String :=
  (tokenRegex.iterate list).map fun m => String.ofList (m.group.getD [])

def syscallsOf (r : Regex) (content : List Char) : List UInt32 :=
  match extract r content with
  | some list => insertResolved (tokens list) []
  | none => []

def nameOf (yamlPath : Path) (content : List Char) : String :=
  match extract nameRegex content with
  | some name => String.ofList name
  | none => yamlPath.stem

def timeoutOf (content : List Char) (default : UInt32) : Option UInt32 :=
  match extract timeoutRegex content with
  | some digits => (stoul digits).map UInt32.ofNat
  | none => some default

/-- The policy made from a file, unless the conversion of the timeout throws. -/
def yamlPolicy (yamlPath : Path) (content : List Char) : Option SecurityPolicy :=
  let policy : SecurityPolicy := {}
  (timeoutOf content policy.maxExecutionTimeSec).map fun maxExecutionTimeSec => {
    policyName := nameOf yamlPath content
    networkRule := { policy.networkRule with
      blockAllEgress := flagOf blockNetRegex content policy.networkRule.blockAllEgress
      blockCloudMetadata := flagOf blockMetaRegex content policy.networkRule.blockCloudMetadata }
    maxExecutionTimeSec
    syscallRule := { policy.syscallRule with
      allowedSyscalls := syscallsOf allowedRegex content
      blockedSyscalls := syscallsOf blockedRegex content } }

/-- What the file system answers to a load. -/
structure YamlFile where
  found : Query := .yes
  opens : Bool := true
  content : List Char := []

def loadFromYaml (yamlPath : Path) (file : YamlFile) : Proc PolicyEngine Status :=
  match file.found with
  | .throws => Proc.throw
  | .no => pure .errPolicyViolation
  | .yes =>
      if file.opens then
        match yamlPolicy yamlPath file.content with
        | none => Proc.throw
        | some policy => do
            Proc.modify fun engine => { engine with policies := engine.policies.insert policy.policyName policy }
            pure .success
      else pure .errPolicyViolation

end Aegis.Policy
