import AccessGateway.Credential.Source

/-
  Credentials behind a scheme. A value that is a scheme, in any ASCII letter case, and something
  behind it has as its credential what stands behind it without the blanks at its ends
  (`credentialIn_append`).
-/

namespace AccessGateway

theorem Ascii.lower_eq_iff {s t : String} :
    Ascii.lower s = Ascii.lower t ↔ s.toList.map Char.toLower = t.toList.map Char.toLower :=
  String.ofList_inj

namespace CredentialSource

theorem dropScheme?_append {scheme head rest : List Char}
    (h : head.map Char.toLower = scheme.map Char.toLower) :
    dropScheme? scheme (head ++ rest) = some rest := by
  have hlen : head.length = scheme.length := by
    have := congrArg List.length h
    simpa using this
  unfold dropScheme?
  rw [← hlen, List.take_left, List.drop_left, if_pos (Ascii.sameIgnoringCase_iff.2 h)]

theorem credentialIn_append {scheme head rest : String}
    (h : Ascii.lower head = Ascii.lower scheme) (hrest : trim rest.toList ≠ []) :
    credentialIn (some scheme) (head ++ rest) = some (trimText rest) := by
  unfold credentialIn
  rw [String.toList_append, Option.getD_some, dropScheme?_append (Ascii.lower_eq_iff.1 h)]
  simp [hrest, trimText]

end CredentialSource

end AccessGateway
