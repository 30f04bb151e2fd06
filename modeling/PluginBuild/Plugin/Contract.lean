import PluginBuild.Plugin.Kind
import PluginBuild.Text.Names
/-!
# Contracts

What a native module of each kind can export: the members of the kind's interface, in the order of
the host's tables, and the names of the exports behind each of them. The host finds exports by their
names, so spelling and case count.
-/

namespace PluginBuild

/-- Who provides a member. -/
inductive Obligation
  /-- Every plugin of the kind implements the member. -/
  | mandatory
  /-- The base class of the kind implements the member. -/
  | base
  /-- A plugin may implement the member. -/
  | optional
deriving DecidableEq

/-- The word for an obligation. -/
def Obligation.name : Obligation → String
  | .mandatory => "mandatory"
  | .base => "base"
  | .optional => "optional"

/-- A member of the interface of a kind. -/
structure Contract where
  member : String
  obligation : Obligation
  /-- The names under which a module of the kind exports the member. -/
  exports : List String
  /-- The names under which a file system module exports the member of a content plugin that it
  serves as well. -/
  aliases : List String
deriving DecidableEq

namespace Contract

/-- A member that every plugin implements. -/
def mandatory (member : String) (exports : List String) (aliases : List String := []) : Contract :=
  ⟨member, .mandatory, exports, aliases⟩

/-- A member that the base class implements. -/
def base (member : String) (exports : List String) (aliases : List String := []) : Contract :=
  ⟨member, .base, exports, aliases⟩

/-- A member that a plugin may implement. -/
def optional (member : String) (exports : List String) (aliases : List String := []) : Contract :=
  ⟨member, .optional, exports, aliases⟩

/-- Whether the exports of a member are kept whatever the plugin implements. -/
def isAlwaysKept (contract : Contract) : Bool := contract.obligation ≠ .optional

/-- The members of file systems. -/
def fileSystem : List Contract :=
  [mandatory "FindFirst" ["FsFindFirst", "FsFindFirstW"],
    mandatory "FindNext" ["FsFindNext", "FsFindNextW"],
    mandatory "FindClose" ["FsFindClose"],
    base "Init" ["FsInit", "FsInitW"],
    base "SetCryptCallback" ["FsSetCryptCallback", "FsSetCryptCallbackW"],
    base "SetDefaultParams" ["FsSetDefaultParams"],
    base "GetDefRootName" ["FsGetDefRootName"],
    base "GetBackgroundFlags" ["FsGetBackgroundFlags"],
    optional "MkDir" ["FsMkDir", "FsMkDirW"],
    optional "ExecuteFile" ["FsExecuteFile", "FsExecuteFileW"],
    optional "RenMovFile" ["FsRenMovFile", "FsRenMovFileW"],
    optional "GetFile" ["FsGetFile", "FsGetFileW"],
    optional "PutFile" ["FsPutFile", "FsPutFileW"],
    optional "DeleteFile" ["FsDeleteFile", "FsDeleteFileW"],
    optional "RemoveDir" ["FsRemoveDir", "FsRemoveDirW"],
    optional "Disconnect" ["FsDisconnect", "FsDisconnectW"],
    optional "SetAttr" ["FsSetAttr", "FsSetAttrW"],
    optional "SetTime" ["FsSetTime", "FsSetTimeW"],
    optional "StatusInfo" ["FsStatusInfo", "FsStatusInfoW"],
    optional "ExtractCustomIcon" ["FsExtractCustomIcon", "FsExtractCustomIconW"],
    optional "GetPreviewBitmap" ["FsGetPreviewBitmap", "FsGetPreviewBitmapW"],
    optional "LinksToLocalFiles" ["FsLinksToLocalFiles"],
    optional "GetLocalName" ["FsGetLocalName", "FsGetLocalNameW"],
    optional "GetDefaultView" ["FsContentGetDefaultView", "FsContentGetDefaultViewW"]]

/-- The members of content plugins. -/
def content : List Contract :=
  [mandatory "GetSupportedField" ["ContentGetSupportedField"] ["FsContentGetSupportedField"],
    mandatory "GetValue" ["ContentGetValue", "ContentGetValueW"]
      ["FsContentGetValue", "FsContentGetValueW"],
    base "SetDefaultParams" ["ContentSetDefaultParams"],
    base "PluginUnloading" ["ContentPluginUnloading"] ["FsContentPluginUnloading"],
    optional "GetDetectString" ["ContentGetDetectString"],
    optional "StopGetValue" ["ContentStopGetValue", "ContentStopGetValueW"]
      ["FsContentStopGetValue", "FsContentStopGetValueW"],
    optional "GetDefaultSortOrder" ["ContentGetDefaultSortOrder"] ["FsContentGetDefaultSortOrder"],
    optional "GetSupportedFieldFlags" ["ContentGetSupportedFieldFlags"]
      ["FsContentGetSupportedFieldFlags"],
    optional "SetValue" ["ContentSetValue", "ContentSetValueW"]
      ["FsContentSetValue", "FsContentSetValueW"],
    optional "EditValue" ["ContentEditValue"],
    optional "SendStateInformation" ["ContentSendStateInformation", "ContentSendStateInformationW"],
    optional "CompareFiles" ["ContentCompareFiles", "ContentCompareFilesW"]]

/-- The members of listers. -/
def lister : List Contract :=
  [mandatory "Load" ["ListLoad", "ListLoadW"],
    base "SetDefaultParams" ["ListSetDefaultParams"],
    optional "LoadNext" ["ListLoadNext", "ListLoadNextW"],
    optional "CloseWindow" ["ListCloseWindow"],
    optional "GetDetectString" ["ListGetDetectString"],
    optional "SearchText" ["ListSearchText", "ListSearchTextW"],
    optional "SearchDialog" ["ListSearchDialog"],
    optional "SendCommand" ["ListSendCommand"],
    optional "Print" ["ListPrint", "ListPrintW"],
    optional "NotificationReceived" ["ListNotificationReceived"],
    optional "GetPreviewBitmap" ["ListGetPreviewBitmap", "ListGetPreviewBitmapW"]]

/-- The members of packers. -/
def packer : List Contract :=
  [mandatory "OpenArchive" ["OpenArchive", "OpenArchiveW"],
    mandatory "ReadHeader" ["ReadHeader", "ReadHeaderEx", "ReadHeaderExW"],
    mandatory "ProcessFile" ["ProcessFile", "ProcessFileW"],
    mandatory "CloseArchive" ["CloseArchive"],
    base "SetChangeVolProc" ["SetChangeVolProc", "SetChangeVolProcW"],
    base "SetProcessDataProc" ["SetProcessDataProc", "SetProcessDataProcW"],
    base "GetPackerCaps" ["GetPackerCaps"],
    base "PackSetDefaultParams" ["PackSetDefaultParams"],
    base "SetCryptCallback" ["PkSetCryptCallback", "PkSetCryptCallbackW"],
    base "GetBackgroundFlags" ["GetBackgroundFlags"],
    optional "PackFiles" ["PackFiles", "PackFilesW"],
    optional "DeleteFiles" ["DeleteFiles", "DeleteFilesW"],
    optional "ConfigurePacker" ["ConfigurePacker"],
    optional "StartMemPack" ["StartMemPack", "StartMemPackW"],
    optional "PackToMem" ["PackToMem"],
    optional "DoneMemPack" ["DoneMemPack"],
    optional "CanYouHandleThisFile" ["CanYouHandleThisFile", "CanYouHandleThisFileW"]]

/-- The members of quick searches. -/
def quickSearch : List Contract :=
  [mandatory "MatchFile" ["MatchFileW"],
    mandatory "MatchGetSetOptions" ["MatchGetSetOptions"]]

end Contract

namespace PluginKind

/-- The members of a kind. -/
def contracts : PluginKind → List Contract
  | .fileSystem => Contract.fileSystem
  | .content => Contract.content
  | .lister => Contract.lister
  | .packer => Contract.packer
  | .quickSearch => Contract.quickSearch

/-- A member with the simple name of the kind's interface. -/
def signature (kind : PluginKind) (member : String) : String := kind.interfaceName ++ "." ++ member

/-- The contract of a kind with a signature. -/
def contract? (kind : PluginKind) (signature : String) : Option Contract :=
  kind.contracts.find? (kind.signature ·.member = signature)

/-- The names that a module of a kind can export, in order. Those of file systems take in the
aliases of content members, which are removed where no content is served. -/
def exportNames (kind : PluginKind) : List String :=
  Text.nameSet (kind.contracts.flatMap Contract.exports ++
    if kind = .fileSystem then content.contracts.flatMap Contract.aliases else [])

end PluginKind

end PluginBuild
