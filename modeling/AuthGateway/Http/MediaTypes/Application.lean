/-!
# Media types of applications

Types `application/…` that belong to no vendor, and the extensions of their files.
-/

namespace AuthGateway.MediaType

/-- The types of applications, with their extensions. -/
def applications : List (String × String) :=
  [("application/PowerShell", "psc1"),
   ("application/acad", "dwg"),
   ("application/andrew-inset", "ez"),
   ("application/annodex", "anx"),
   ("application/applixware", "aw"),
   ("application/atom+xml", "atom"),
   ("application/atomcat+xml", "atomcat"),
   ("application/atomsvc+xml", "atomsvc"),
   ("application/bdoc", "bdoc"),
   ("application/ccxml+xml", "ccxml"),
   ("application/cdmi-capability", "cdmia"),
   ("application/cdmi-container", "cdmic"),
   ("application/cdmi-domain", "cdmid"),
   ("application/cdmi-object", "cdmio"),
   ("application/cdmi-queue", "cdmiq"),
   ("application/cu-seeme", "cu"),
   ("application/dash+xml", "mpd"),
   ("application/davmount+xml", "davmount"),
   ("application/directx", "x"),
   ("application/docbook+xml", "dbk"),
   ("application/dssc+der", "dssc"),
   ("application/dssc+xml", "xdssc"),
   ("application/emma+xml", "emma"),
   ("application/envoy", "evy"),
   ("application/epub+zip", "epub"),
   ("application/etl", "etl"),
   ("application/exi", "exi"),
   ("application/font-sfnt", "otf"),
   ("application/font-tdpfr", "pfr"),
   ("application/font-woff", "woff"),
   ("application/fractals", "fif"),
   ("application/fsharp-script", "fsscript fsx"),
   ("application/futuresplash", "spl"),
   ("application/geo+json", "geojson"),
   ("application/gml+xml", "gml"),
   ("application/gpx+xml", "gpx"),
   ("application/gxf", "gxf"),
   ("application/gzip", "gz"),
   ("application/hjson", "hjson"),
   ("application/hta", "hta"),
   ("application/hyperstudio", "stk"),
   ("application/inkml+xml", "ink inkml"),
   ("application/internet-property-stream", "acx"),
   ("application/ipfix", "ipfix"),
   ("application/java-archive", "ear jar war"),
   ("application/java-serialized-object", "ser"),
   ("application/javascript", "mjs"),
   ("application/json", "json"),
   ("application/json5", "json5"),
   ("application/jsonml+json", "jsonml"),
   ("application/ld+json", "jsonld"),
   ("application/liquidmotion", "jck jcz"),
   ("application/lost+xml", "lostxml"),
   ("application/mac-binhex40", "hqx"),
   ("application/mac-compactpro", "cpt"),
   ("application/mads+xml", "mads"),
   ("application/manifest+json", "webmanifest"),
   ("application/marc", "mrc"),
   ("application/marcxml+xml", "mrcx"),
   ("application/mathematica", "ma mb nb"),
   ("application/mathml+xml", "mathml"),
   ("application/mbox", "mbox"),
   ("application/mediaservercontrol+xml", "mscml"),
   ("application/metalink+xml", "metalink"),
   ("application/metalink4+xml", "meta4"),
   ("application/mets+xml", "mets"),
   ("application/mods+xml", "mods"),
   ("application/mp21", "m21 mp21"),
   ("application/mp4", "mp4s"),
   ("application/mpeg", "amc"),
   ("application/ms-vsi", "vsi"),
   ("application/msaccess", "accdb accde accdt ade adp mda mde"),
   ("application/msaccess.addin", "accda"),
   ("application/msaccess.cab", "accdc"),
   ("application/msaccess.ftemplate", "accft"),
   ("application/msaccess.runtime", "accdr"),
   ("application/msaccess.webapplication", "accdw"),
   ("application/msword", "doc dot wbk wiz"),
   ("application/mxf", "mxf"),
   ("application/n-quads", "nq"),
   ("application/n-triples", "nt"),
   ("application/oda", "oda"),
   ("application/oebps-package+xml", "opf"),
   ("application/ogg", "ogx"),
   ("application/olescript", "axs"),
   ("application/omdoc+xml", "omdoc"),
   ("application/onenote", "one onea onepkg onetmp onetoc onetoc2"),
   ("application/opensearchdescription+xml", "osdx"),
   ("application/oxps", "oxps"),
   ("application/patch-ops-error+xml", "xer"),
   ("application/pdf", "pdf"),
   ("application/pgp-encrypted", "pgp"),
   ("application/pgp-signature", "asc sig"),
   ("application/pics-rules", "prf"),
   ("application/pkcs10", "p10"),
   ("application/pkcs7-mime", "p7c p7m"),
   ("application/pkcs7-signature", "p7s"),
   ("application/pkcs8", "p8"),
   ("application/pkix-attr-cert", "ac"),
   ("application/pkix-crl", "crl"),
   ("application/pkix-pkipath", "pkipath"),
   ("application/pkixcmp", "pki"),
   ("application/postscript", "ai eps ps"),
   ("application/prs.cww", "cww"),
   ("application/pskc+xml", "pskcxml"),
   ("application/raml+yaml", "raml"),
   ("application/rat-file", "rat"),
   ("application/rdf+xml", "rdf"),
   ("application/reginfo+xml", "rif"),
   ("application/relax-ng-compact-syntax", "rnc"),
   ("application/resource-lists+xml", "rl"),
   ("application/resource-lists-diff+xml", "rld"),
   ("application/rpki-ghostbusters", "gbr"),
   ("application/rpki-manifest", "mft"),
   ("application/rpki-roa", "roa"),
   ("application/rsd+xml", "rsd"),
   ("application/rss+xml", "rss"),
   ("application/rtf", "rtf"),
   ("application/sbml+xml", "sbml"),
   ("application/scvp-cv-request", "scq"),
   ("application/scvp-cv-response", "scs"),
   ("application/scvp-vp-request", "spq"),
   ("application/scvp-vp-response", "spp"),
   ("application/sdp", "sdp"),
   ("application/set-payment-initiation", "setpay"),
   ("application/set-registration-initiation", "setreg"),
   ("application/shf+xml", "shf"),
   ("application/smil+xml", "smil"),
   ("application/sparql-query", "rq"),
   ("application/sparql-results+xml", "srx"),
   ("application/srgs", "gram"),
   ("application/srgs+xml", "grxml"),
   ("application/sru+xml", "sru"),
   ("application/ssdl+xml", "ssdl"),
   ("application/ssml+xml", "ssml"),
   ("application/step", "step stp"),
   ("application/streamingmedia", "ssm"),
   ("application/tei+xml", "tei teicorpus"),
   ("application/thraud+xml", "tfi"),
   ("application/timestamped-data", "tsd"),
   ("application/trig", "trig"),
   ("application/voicexml+xml", "vxml"),
   ("application/vsix", "vsix"),
   ("application/wasm", "wasm"),
   ("application/widget", "wgt"),
   ("application/windows-library+xml", "library-ms"),
   ("application/windows-search-connector+xml", "searchconnector-ms"),
   ("application/winhlp", "hlp"),
   ("application/wlmoviemaker", "wlmp"),
   ("application/wspolicy+xml", "wspolicy"),
   ("application/x-7z-compressed", "7z"),
   ("application/x-abiword", "abw"),
   ("application/x-ace-compressed", "ace"),
   ("application/x-arj", "arj"),
   ("application/x-authorware-bin", "aab vox x32"),
   ("application/x-authorware-map", "aam"),
   ("application/x-authorware-seg", "aas"),
   ("application/x-bcpio", "bcpio"),
   ("application/x-bittorrent", "torrent"),
   ("application/x-blorb", "blb blorb"),
   ("application/x-bridge-url", "adobebridge"),
   ("application/x-bzip", "bz"),
   ("application/x-bzip2", "boz bz2"),
   ("application/x-cbr", "cb7 cba cbr cbt cbz"),
   ("application/x-cdf", "cdf"),
   ("application/x-cdlink", "vcd"),
   ("application/x-cfs-compressed", "cfs"),
   ("application/x-chat", "chat"),
   ("application/x-chess-pgn", "pgn"),
   ("application/x-chrome-extension", "crx"),
   ("application/x-cocoa", "cco"),
   ("application/x-compress", "z"),
   ("application/x-compressed", "tgz"),
   ("application/x-cpio", "cpio"),
   ("application/x-csh", "csh"),
   ("application/x-debian-package", "udeb"),
   ("application/x-dgc-compressed", "dgc"),
   ("application/x-director", "cct cst cxt dcr dir dxr fgd swa w3d"),
   ("application/x-doom", "wad"),
   ("application/x-dtbncx+xml", "ncx"),
   ("application/x-dtbook+xml", "dtb"),
   ("application/x-dtbresource+xml", "res"),
   ("application/x-dvi", "dvi"),
   ("application/x-dxf", "dxf"),
   ("application/x-endace-erf", "erf"),
   ("application/x-eva", "eva"),
   ("application/x-font-bdf", "bdf"),
   ("application/x-font-ghostscript", "gsf"),
   ("application/x-font-linux-psf", "psf"),
   ("application/x-font-pcf", "pcf"),
   ("application/x-font-snf", "snf"),
   ("application/x-font-type1", "pfa"),
   ("application/x-freearc", "arc"),
   ("application/x-gca-compressed", "gca"),
   ("application/x-glulx", "ulx"),
   ("application/x-gnumeric", "gnumeric"),
   ("application/x-gramps-xml", "gramps"),
   ("application/x-gtar", "gtar"),
   ("application/x-hdf", "hdf"),
   ("application/x-httpd-php", "php"),
   ("application/x-install-instructions", "install"),
   ("application/x-internet-signup", "ins isp"),
   ("application/x-iphone", "iii"),
   ("application/x-itunes-ipa", "ipa"),
   ("application/x-itunes-ipg", "ipg"),
   ("application/x-itunes-ipsw", "ipsw"),
   ("application/x-itunes-ite", "ite"),
   ("application/x-itunes-itlp", "itlp"),
   ("application/x-itunes-itms", "itms"),
   ("application/x-itunes-itpc", "itpc"),
   ("application/x-java-applet", "class"),
   ("application/x-java-archive-diff", "jardiff"),
   ("application/x-java-jnlp-file", "jnlp"),
   ("application/x-koan", "skp"),
   ("application/x-latex", "latex"),
   ("application/x-lua-bytecode", "luac"),
   ("application/x-lzh-compressed", "lha"),
   ("application/x-makeself", "run"),
   ("application/x-mie", "mie"),
   ("application/x-miva-compiled", "mvc"),
   ("application/x-mmxp", "mxp"),
   ("application/x-mobipocket-ebook", "mobi prc"),
   ("application/x-ms-application", "application"),
   ("application/x-ms-license", "slupkg-ms"),
   ("application/x-ms-manifest", "manifest"),
   ("application/x-ms-reader", "lit"),
   ("application/x-ms-shortcut", "lnk"),
   ("application/x-ms-vsto", "vsto"),
   ("application/x-ms-wmd", "wmd"),
   ("application/x-ms-wmz", "wmz"),
   ("application/x-ms-xbap", "xbap"),
   ("application/x-msaccess", "mdb"),
   ("application/x-msbinder", "obd"),
   ("application/x-mscardfile", "crd"),
   ("application/x-msclip", "clp"),
   ("application/x-msdownload", "bat com dll"),
   ("application/x-msmediaview", "m13 m14 mvb"),
   ("application/x-msmetafile", "emf wmf"),
   ("application/x-msmoney", "mny"),
   ("application/x-mspublisher", "pub"),
   ("application/x-msschedule", "scd"),
   ("application/x-msterminal", "trm"),
   ("application/x-mswrite", "wri"),
   ("application/x-netcdf", "nc"),
   ("application/x-ns-proxy-autoconfig", "pac"),
   ("application/x-nzb", "nzb"),
   ("application/x-oleobject", "hhc"),
   ("application/x-perfmon", "pma pmc pml pmr pmw"),
   ("application/x-perl", "pl pm"),
   ("application/x-pkcs12", "p12 pfx"),
   ("application/x-pkcs7-certificates", "p7b spc"),
   ("application/x-pkcs7-certreqresp", "p7r"),
   ("application/x-podcast", "pcast"),
   ("application/x-quicktimeplayer", "qtl"),
   ("application/x-rar-compressed", "rar"),
   ("application/x-research-info-systems", "ris"),
   ("application/x-safari-safariextz", "safariextz"),
   ("application/x-safari-webarchive", "webarchive"),
   ("application/x-sgimb", "sgimb"),
   ("application/x-sh", "sh"),
   ("application/x-shar", "shar"),
   ("application/x-shockwave-flash", "mfp swf"),
   ("application/x-silverlight-app", "xap"),
   ("application/x-smaf", "mmf"),
   ("application/x-sql", "sql"),
   ("application/x-stuffit", "sit"),
   ("application/x-stuffitx", "sitx"),
   ("application/x-subrip", "srt"),
   ("application/x-sv4cpio", "sv4cpio"),
   ("application/x-sv4crc", "sv4crc"),
   ("application/x-t3vm-image", "t3"),
   ("application/x-tads", "gam"),
   ("application/x-tar", "tar"),
   ("application/x-tcl", "tcl tk"),
   ("application/x-tex", "tex"),
   ("application/x-tex-tfm", "tfm"),
   ("application/x-texinfo", "texi texinfo"),
   ("application/x-tgif", "obj"),
   ("application/x-troff", "roff t tr"),
   ("application/x-troff-man", "man"),
   ("application/x-troff-me", "me"),
   ("application/x-troff-ms", "ms"),
   ("application/x-ustar", "ustar"),
   ("application/x-virtualbox-hdd", "hdd"),
   ("application/x-virtualbox-ova", "ova"),
   ("application/x-virtualbox-ovf", "ovf"),
   ("application/x-virtualbox-vbox", "vbox"),
   ("application/x-virtualbox-vbox-extpack", "vbox-extpack"),
   ("application/x-virtualbox-vdi", "vdi"),
   ("application/x-virtualbox-vhd", "vhd"),
   ("application/x-virtualbox-vmdk", "vmdk"),
   ("application/x-wais-source", "src"),
   ("application/x-web-app-manifest+json", "webapp"),
   ("application/x-wlpg-detect", "wlpginstall"),
   ("application/x-wlpg3-detect", "wlpginstall3"),
   ("application/x-x509-ca-cert", "cer crt der pem"),
   ("application/x-xfig", "fig"),
   ("application/x-xliff+xml", "xlf"),
   ("application/x-xpinstall", "xpi"),
   ("application/x-xz", "xz"),
   ("application/x-zmachine", "z1 z2 z3 z4 z5 z6 z7 z8"),
   ("application/xaml+xml", "xaml"),
   ("application/xcap-diff+xml", "xdf"),
   ("application/xenc+xml", "xenc"),
   ("application/xhtml+xml", "xht xhtml"),
   ("application/xml", "asa asax ascx ashx asmx aspx config coverage datasource dgml filters"),
   ("application/xml", "generictest hxa hxc hxe hxf hxk hxv loadtest master mtx orderedtest"),
   ("application/xml", "psess rdlc resx rng ruleset settings sitemap skin snippet svc"),
   ("application/xml", "testrunconfig testsettings trx vcproj vcxproj vscontent vsmdi webtest"),
   ("application/xml", "wiq xmta xsc xss"),
   ("application/xop+xml", "xop"),
   ("application/xproc+xml", "xpl"),
   ("application/xspf+xml", "xspf"),
   ("application/xv+xml", "mxml xhvml xvm xvml"),
   ("application/yang", "yang"),
   ("application/yin+xml", "yin"),
   ("application/zip", "zip")]

end AuthGateway.MediaType
