import HostBinder.Config.Decode
import HostBinder.Files.Tree

set_option autoImplicit false

namespace HostBinder

def settingsFileName : String := "viewbind.toml"

inductive SettingsFileError where
  | unreadable (path : String) (reason : FileError)
  | invalid (path : String) (reason : SettingsError)
  deriving DecidableEq, Repr

def SettingsFileError.message : SettingsFileError → String
  | .unreadable path reason => "failed to read " ++ path ++ ": " ++ reason.message
  | .invalid path reason => "invalid " ++ path ++ ": " ++ reason.message

def settingsPath (directory : String) : String := Files.joinPath directory settingsFileName

def settingsOfDirectory (files : FileTree) (directory : String) : Except SettingsFileError Settings :=
  let path := settingsPath directory
  match files.readText path with
  | .ok text => (settingsOfText text).mapError (.invalid path)
  | .error .notFound => .ok .default
  | .error reason => .error (.unreadable path reason)

end HostBinder
