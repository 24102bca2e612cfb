import EventLog.Config

set_option autoImplicit false

/-! # Configuration files

A configuration file holds one mapping, or nothing at all, which is a configuration without settings.
Its text is read by a reader of documents, which the library does not contain: it gives the value of a
document or raises an exception. An exception of the kind that says that the text does not have the
form of a document is reported before it is passed on. -/

namespace EventLog.Config

/-- The configuration of the file of this path, whose text is missing if there is no such file. -/
def ofFile (read : Text → Except Exception Value) (path : Text) (file : Option Text) :
    EStateM Fault Environment Config := fun env =>
  match file with
  | none => .error (.configurationMissing path) env
  | some text =>
      match read text with
      | .error x =>
          .error (.raised x) (if x.cls.isKind .document then env.report (.fileMalformed path) else env)
      | .ok .null => .ok empty env
      | .ok (.map es) =>
          match normalize (ofEntries es) with
          | .ok c => .ok c env
          | .error f => .error f env
      | .ok _ => .error (.configurationNotAMapping path) env

end EventLog.Config
