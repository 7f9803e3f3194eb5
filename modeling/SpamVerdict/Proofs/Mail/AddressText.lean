import SpamVerdict.Provider.SenderPolicy
import SpamVerdict.Proofs.Mail.LooseAddress
set_option autoImplicit false

/-!
# The sending address as text (SPEC_FULL §3, §4.1)

A message carries its sending address as text, from the variables of a ticket to the evaluation of
the sender policy.  The text is canonical, so that nothing which is stripped off a loosely written
address belongs to it: both ways of reading give the address back, and the text of a message that
is handed over once more settles the address by itself (`ofVars_address_lossless`).

SPEC_FULL §3 makes the address of a message a text that may be empty, and §4.1 has it empty exactly
if no address was found.
-/

namespace SpamVerdict

/-! ## Reading what was written -/

namespace Mail

theorem isDecoration_of_isHexDigit {c : Char} (h : Text.isHexDigit c = true) :
    isDecoration c = false :=
  Text.of_isHexDigit (p := fun c => isDecoration c = false) (by decide) h

theorem undecorate_of_spelledBy {x : Ip.Address} {cs : List Char} (h : x.SpelledBy cs) :
    undecorate cs = cs :=
  Text.trimOf_of_bare (h.bareOf (fun _ => isDecoration_of_isHexDigit) (by decide))

/-- The canonical text of an address is read as that address also where decoration is allowed. -/
theorem normalizeIp?_print (x : Ip.Address) : normalizeIp? x.print = some x := by
  rw [normalizeIp?, normalizeIpChars?_eq_some_iff, undecorate_of_spelledBy x.spelledBy_print]
  exact .alone x.spelledBy_print

theorem trim_print (x : Ip.Address) : Text.trim x.print = x.print := by
  have hbare : Text.BareOf Text.isBlank x.print.toList := by
    refine x.spelledBy_print.bareOf (fun c hc => ?_) (by decide)
    have hdecoration := isDecoration_of_isHexDigit hc
    rw [isDecoration, Bool.or_eq_false_iff] at hdecoration
    exact hdecoration.1
  rw [Text.trim, Text.trimOf_of_bare hbare, String.ofList_toList]

/-- The text under which an address is handed on; there is none for no address. -/
def addressText (found : Option Ip.Address) : String := (found.map (·.print)).getD ""

theorem parse?_addressText (found : Option Ip.Address) :
    Ip.Address.parse? (addressText found) = found := by
  cases found with
  | none => decide
  | some x => exact x.parse?_print

theorem normalizeIp?_addressText (found : Option Ip.Address) :
    normalizeIp? (addressText found) = found := by
  cases found with
  | none => decide
  | some x => exact normalizeIp?_print x

theorem trim_addressText (found : Option Ip.Address) :
    Text.trim (addressText found) = addressText found := by
  cases found with
  | none => rfl
  | some x => exact trim_print x

theorem addressText_eq_empty_iff {found : Option Ip.Address} :
    addressText found = "" ↔ found = none := by
  refine ⟨fun h => ?_, fun h => by rw [h]; rfl⟩
  have hread := parse?_addressText found
  rw [h] at hread
  exact hread.symm.trans (by decide)

/-- A readable text under the most trusted variable settles the address. -/
theorem sendingIp?_of_ip {vars : Vars} {text : String} {x : Ip.Address}
    (hvar : vars.get? "ip" = some (.string text)) (hread : normalizeIp? text = some x)
    (header : String) : sendingIp? vars header = some x := by
  simp [sendingIp?, addressVars, hvar, Json.string?, hread]

end Mail

/-! ## Errors of an evaluation -/

/-- No evaluation ends with the error that stands for a missing address. -/
theorem Spf.Fault.message_ne_noAddress (fault : Spf.Fault) :
    fault.message ≠ "No valid IP address available for SPF check" := by
  cases fault with
  | lookupFailed fault =>
    have hne : ("DNS TXT lookup failed: " ++ fault.message).toList ≠
        "No valid IP address available for SPF check".toList := by simp
    exact fun h => hne (congrArg String.toList h)
  | unsupported term =>
    have hne : ("Unsupported SPF mechanism: " ++ term).toList ≠
        "No valid IP address available for SPF check".toList := by simp
    exact fun h => hne (congrArg String.toList h)
  | _ => decide

namespace Provider.SenderPolicy

/-- For a sender with a domain, the report names a missing address exactly if the text of the
address cannot be read. -/
theorem check_error_eq_noAddress_iff {m : Mail.Message} {domain : String}
    (hdomain : m.senderDomain? = some domain) (dns : Dns.Resolver) :
    (check dns m).error = some "No valid IP address available for SPF check" ↔
      Ip.Address.parse? (Text.trim m.ip) = none := by
  unfold check
  rw [hdomain]
  dsimp only
  cases hip : Ip.Address.parse? (Text.trim m.ip) with
  | none => exact ⟨fun _ => rfl, fun _ => rfl⟩
  | some ip =>
    refine ⟨fun h => ?_, fun h => by cases h⟩
    obtain ⟨fault, -, hmessage⟩ := Option.map_eq_some_iff.1 h
    exact absurd hmessage fault.message_ne_noAddress

end Provider.SenderPolicy

namespace Mail

/-- Every address is read back from its canonical text, strictly and loosely.  So a message carries
the address that was found for it, or the empty text if none was; its text, put back among the
variables of any ticket, settles that address whatever the header; and a sender with a domain is
told that there is no address exactly if none was found. -/
theorem ofVars_address_lossless (vars : Vars) :
    let m := Message.ofVars vars
    let found := sendingIp? vars (varText vars "header")
    (∀ x : Ip.Address, Ip.Address.parse? x.print = some x ∧ normalizeIp? x.print = some x) ∧
      (m.ip = "" ↔ found = none) ∧
      Ip.Address.parse? m.ip = found ∧ normalizeIp? m.ip = found ∧
      (∀ x, found = some x → ∀ (vars' : Vars) (header : String),
        vars'.get? "ip" = some (.string m.ip) →
          sendingIp? vars' header = some x ∧ (Message.ofVars vars').ip = m.ip) ∧
      ∀ (dns : Dns.Resolver) (domain : String), m.senderDomain? = some domain →
        ((Provider.SenderPolicy.check dns m).error =
          some "No valid IP address available for SPF check" ↔ found = none) := by
  intro m found
  have hip : m.ip = addressText found := rfl
  refine ⟨fun x => ⟨x.parse?_print, normalizeIp?_print x⟩, ?_, ?_, ?_, ?_, ?_⟩
  · rw [hip, addressText_eq_empty_iff]
  · rw [hip, parse?_addressText]
  · rw [hip, normalizeIp?_addressText]
  · intro x hfound vars' header hvar
    have hread : normalizeIp? m.ip = some x := by rw [hip, normalizeIp?_addressText, hfound]
    refine ⟨sendingIp?_of_ip hvar hread header, ?_⟩
    change addressText (sendingIp? vars' (varText vars' "header")) = m.ip
    rw [sendingIp?_of_ip hvar hread, hip, hfound]
  · intro dns domain hdomain
    rw [Provider.SenderPolicy.check_error_eq_noAddress_iff hdomain, hip, trim_addressText,
      parse?_addressText]

/-- An address with a dotted end, handed over with decoration and once more without. -/
theorem ofVars_address_lossless_mapped :
    let vars : Vars := [("email", .string "a@b.test"), ("ip", .string " [::FFFF:192.0.2.1], ")]
    let x : Ip.Address := .v6 ⟨0, 0, 0, 0, 0, 0xFFFF, 0xC000, 0x201⟩
    let dns : Dns.Resolver := ⟨fun _ => .ok [], fun _ _ => .ok [], fun _ => .ok []⟩
    sendingIp? [("ip", .string "::ffff:192.0.2.1")] "X-Real-IP: 10.0.0.1" = some x ∧
      (Provider.SenderPolicy.check dns (Message.ofVars vars)).error ≠
        some "No valid IP address available for SPF check" := by
  intro vars x dns
  have hvar : vars.get? "ip" = some (.string " [::FFFF:192.0.2.1], ") := rfl
  have hfound : sendingIp? vars (varText vars "header") = some x :=
    sendingIp?_of_ip hvar (by decide +kernel) _
  obtain ⟨-, -, -, -, hagain, herror⟩ := ofVars_address_lossless vars
  have hip : (Message.ofVars vars).ip = "::ffff:192.0.2.1" := by
    change addressText (sendingIp? vars (varText vars "header")) = _
    rw [hfound]
    decide +kernel
  have hdomain : (Message.ofVars vars).senderDomain? = some "b.test" := by decide +kernel
  refine ⟨(hagain x hfound _ _ ?_).1, ?_⟩
  · rw [hip]
    rfl
  · rw [Ne, herror dns "b.test" hdomain, hfound]
    decide

end Mail

end SpamVerdict
